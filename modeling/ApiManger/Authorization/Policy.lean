import ApiManger.Collection.FirstMatch
import ApiManger.Collection.Keyed
import ApiManger.Python.Value

/-!
# Authorization policies

`apiAnalysis/tool/authorization_policy.py`: selectors with their validation, the
first-match resolution of one matrix cell, and the creation and cloning of policy
versions. The decisions and the scope relations are closed enumerations in the code
and types here. `uuid4().hex` is a draw from a supply of names.
-/

namespace ApiManger.Authorization
open Python Collection

/-- `DECISIONS`. -/
inductive Decision where
  | allow | deny | review
  deriving DecidableEq

/-- `SCOPE_RELATIONS`. -/
inductive ScopeRelation where
  | any | same | different

/-- `AuthorizationPrincipal`, as far as a policy reads it. -/
structure AuthorizationPrincipal where
  principalId : String
  profileId : String := ""
  accountKey : String := ""
  name : String := ""
  roleKey : String := ""
  privilegeRank : Int := 0
  scopeKey : String := ""
  labels : List String := []
  attributes : Dict := []
  deriving DecidableEq

inductive Lifecycle where
  | draft | active | archived
  deriving DecidableEq

structure AuthorizationPolicy where
  policyKey : String
  policyVersionId : String
  projectId : String
  envId : String
  name : String
  version : Nat := 1
  lifecycle : Lifecycle := .draft
  principalIds : List String
  relationIds : List String
  resourceFamily : String := ""
  action : String := "read"
  defaultDecision : Decision := .review
  samePrincipalDecision : Decision := .allow
  includeSelf : Bool := true
  caseBudget : Int := 100
  requestBudgetPerCase : Int := 3
  parentPolicyVersionId : String := ""
  createdBy : String := ""
  principalSnapshots : List Dict := []
  relationSnapshots : List Dict := []
  activatedAt : Option Int := none

structure AuthorizationPolicyRule where
  ruleId : String
  policyVersionId : String
  priority : Int := 100
  subjectSelector : Dict := []
  ownerSelector : Dict := []
  scopeRelation : ScopeRelation := .any
  resourceFamily : String := ""
  action : String := "read"
  expectedDecision : Decision
  reasonCodes : List String := []
  description : String := ""
  active : Bool := true

/-! ## Selectors -/

def strings : Json → Except PyError (List String)
  | .null => .ok []
  | .str s => .ok ([s].filter (· != ""))
  | .arr items => .ok ((items.map Json.pyStr).filter (· != ""))
  | .obj fields => .ok ((fields.map (·.1)).filter (· != ""))
  | .bool _ | .int _ | .float _ => .error (.typeError "object is not iterable")

def sensitiveAttributeKeys : List String := [
  "authorization", "cookie", "credential", "credentials", "password",
  "passwd", "secret", "token", "access_token", "refresh_token", "api_key",
  "private_key", "session", "sessionid"]

/-- `text.strip().lower()`, as characters. -/
def lowered (text : String) : List Char := (strip text).map Char.toLower

/-- `str(key).strip().lower().replace("-", "_")`. -/
def normalizedKey (key : String) : String :=
  String.ofList ((lowered key).map fun c => if c = '-' then '_' else c)

def startsWith (text : List Char) (start : String) : Bool := start.toList.isPrefixOf text
def contains (text : List Char) (part : String) : Bool := text.tails.any (part.toList.isPrefixOf ·)

/-- The check of one text attribute. -/
def carriesMaterial (text : String) : Bool :=
  startsWith (lowered text) "bearer " || contains (lowered text) "-----begin private key-----"

def limitSize (fields : Dict) : Except PyError Unit :=
  if 16384 < (Json.obj fields).dumpsLength then
    .error (.valueError "authorization metadata is limited to 16 KiB")
  else .ok ()

mutual

/-- The loop of `_validate_public_attributes`. -/
def publicEntries (path : String) : List (String × Json) → Except PyError Unit
  | [] => .ok ()
  | (key, item) :: rest =>
    if sensitiveAttributeKeys.contains (normalizedKey key) then
      .error (.valueError ("authorization metadata cannot store sensitive field " ++ path ++ "." ++ key))
    else (match item with
      | .obj fields => (publicEntries (path ++ "." ++ key) fields).bind fun _ => limitSize fields
      | .arr items => publicItems (path ++ "." ++ key) 0 items
      | .str text => if carriesMaterial text then
          .error (.valueError "authorization metadata cannot store authentication material") else .ok ()
      | _ => .ok ()).bind fun _ => publicEntries path rest

def publicItems (location : String) (index : Nat) : List Json → Except PyError Unit
  | [] => .ok ()
  | item :: rest => (match item with
      | .obj fields => (publicEntries (location ++ "[" ++ toString index ++ "]") fields).bind fun _ =>
          limitSize fields
      | .str text => if startsWith (lowered text) "bearer " then
          .error (.valueError "authorization metadata cannot store bearer material") else .ok ()
      | _ => .ok ()).bind fun _ => publicItems location (index + 1) rest

end

def validatePublicAttributes (attributes : Dict) (path : String) : Except PyError Dict := do
  publicEntries path attributes
  limitSize attributes
  return attributes

/-- The selector fields that hold lists of names. -/
def nameFields : List String := [
  "principal_ids", "profile_ids", "account_keys", "role_keys", "scope_keys", "labels_all", "labels_any"]

def rankFields : List String := ["min_privilege_rank", "max_privilege_rank"]

def selectorFields : List String := nameFields ++ rankFields ++ ["attributes"]

/-- `if key in value: value[key] = f(value[key])`. -/
def normalizeField (f : Json → Except PyError Json) (value : Dict) (key : String) :
    Except PyError Dict :=
  match Dict.get? value key with
  | none => .ok value
  | some x => (f x).map (Dict.set value key)

def normalizeNames (x : Json) : Except PyError Json := (strings x).map fun names => .arr (names.map .str)
def normalizeRank (x : Json) : Except PyError Json := x.toInt.map .int

variable (value : Dict)

/-- `value.get("attributes") or {}`, which has to be a dictionary. -/
def selectorAttributes : Except PyError Dict :=
  match Dict.get value "attributes" with
  | .obj fields => .ok fields
  | x => if x.truthy then
      .error (.valueError "authorization selector attributes must be a dictionary") else .ok []

def selectorRank (key : String) : Option Int :=
  match Dict.get? value key with
  | some (.int n) => some n
  | _ => none

def rankRangeInvalid : Bool :=
  match selectorRank value "min_privilege_rank", selectorRank value "max_privilege_rank" with
  | some lo, some hi => decide (hi < lo)
  | _, _ => false

def validateSelector (selector : Dict) : Except PyError Dict := do
  let unknown := (selector.map (·.1)).filter fun key => !selectorFields.contains key
  if !unknown.isEmpty then
    throw (.valueError ("unsupported authorization selector fields: " ++
      ", ".intercalate (unknown.dedup.insertionSort (· ≤ ·))))
  let attributes ← selectorAttributes selector
  let value ← nameFields.foldlM (normalizeField normalizeNames) selector
  let value ← rankFields.foldlM (normalizeField normalizeRank) value
  if rankRangeInvalid value then throw (.valueError "authorization selector rank range is invalid")
  let attributes ← validatePublicAttributes attributes "selector.attributes"
  return Dict.set value "attributes" (.obj attributes)

def selectorNames (key : String) : List String :=
  match Dict.get? value key with
  | some (.arr items) => items.map Json.pyStr
  | _ => []

/-- What a valid selector asks of a principal. -/
def selectorAdmits (p : AuthorizationPrincipal) : Bool :=
  let exact := [("principal_ids", p.principalId), ("profile_ids", p.profileId),
    ("account_keys", p.accountKey), ("role_keys", p.roleKey), ("scope_keys", p.scopeKey)]
  (exact.all fun (key, actual) =>
    (selectorNames value key).isEmpty || (selectorNames value key).contains actual) &&
  (selectorRank value "min_privilege_rank").all (decide <| · ≤ p.privilegeRank) &&
  (selectorRank value "max_privilege_rank").all (decide <| p.privilegeRank ≤ ·) &&
  (selectorNames value "labels_all").all p.labels.contains &&
  ((selectorNames value "labels_any").isEmpty ||
    (selectorNames value "labels_any").any p.labels.contains) &&
  match Dict.get? value "attributes" with
  | some (.obj fields) => fields.all fun (key, expected) => (Dict.get p.attributes key).pyEq expected
  | _ => true

def selectorMatches (selector : Dict) (p : AuthorizationPrincipal) : Except PyError Bool :=
  (validateSelector selector).map (selectorAdmits · p)

/-! ## Resolution -/

/-- One cell of the matrix. -/
structure Cell where
  owner : AuthorizationPrincipal
  subject : AuthorizationPrincipal
  resourceFamily : String := ""
  action : String := "read"

def scopeRelationMatches (relation : ScopeRelation) (owner subject : AuthorizationPrincipal) : Bool :=
  match relation with
  | .same => owner.scopeKey != "" && subject.scopeKey != "" && owner.scopeKey == subject.scopeKey
  | .different => owner.scopeKey != subject.scopeKey
  | .any => true

/-- The tests of a rule that cannot fail. -/
def ruleApplies (rule : AuthorizationPolicyRule) (cell : Cell) : Bool :=
  (rule.resourceFamily == "" || rule.resourceFamily == cell.resourceFamily) &&
  (rule.action == "" || rule.action == cell.action) &&
  scopeRelationMatches rule.scopeRelation cell.owner cell.subject

/-- Whether the loop of `resolve_authorization_expectation` stops at a rule. -/
def ruleMatches (rule : AuthorizationPolicyRule) (cell : Cell) : Except PyError Bool := do
  if !ruleApplies rule cell then return false
  if !(← selectorMatches rule.ownerSelector cell.owner) then return false
  selectorMatches rule.subjectSelector cell.subject

/-- The order of the rules: by falling priority, then by id. -/
def ruleOrder (a b : AuthorizationPolicyRule) : Prop :=
  b.priority < a.priority ∨ a.priority = b.priority ∧ a.ruleId ≤ b.ruleId

instance : DecidableRel ruleOrder := fun a b => by unfold ruleOrder; infer_instance

def firstMatch (cell : Cell) : List AuthorizationPolicyRule → Except PyError (Option AuthorizationPolicyRule)
  | [] => .ok none
  | rule :: rest => do
    if ← ruleMatches rule cell then return some rule else firstMatch cell rest

/-- The answer of `resolve_authorization_expectation`. -/
structure Expectation where
  expectedDecision : Decision
  matchedRuleId : String
  reasonCodes : List String

/-- The decision of a policy where no rule matches. -/
def fallbackDecision (policy : AuthorizationPolicy) (cell : Cell) : Decision :=
  if cell.owner.principalId == cell.subject.principalId then policy.samePrincipalDecision
  else policy.defaultDecision

def resolveAuthorizationExpectation (policy : AuthorizationPolicy)
    (rules : List AuthorizationPolicyRule) (cell : Cell) : Except PyError Expectation := do
  let found ← firstMatch cell ((rules.filter (·.active)).insertionSort ruleOrder)
  match found with
  | some rule => return ⟨rule.expectedDecision, rule.ruleId, rule.reasonCodes.filter (· != "")⟩
  | none => return ⟨fallbackDecision policy cell, "",
      [if cell.owner.principalId == cell.subject.principalId then "authorization_same_principal_default"
        else "authorization_policy_default"]⟩

/-! ## Versions -/

/-- The stored policies and rules, with the names drawn so far. -/
structure PolicyStore where
  policies : List AuthorizationPolicy
  rules : List AuthorizationPolicyRule
  drawn : Nat := 0
  uniqueVersions : Distinct (·.policyVersionId) policies
  uniqueRules : Distinct (·.ruleId) rules
  owned : ∀ r ∈ rules, ∃ p ∈ policies, p.policyVersionId = r.policyVersionId

namespace PolicyStore

variable (s : PolicyStore)

/-- `AuthorizationPolicy.objects(policy_version_id=...).first()`. -/
def policy? (version : String) : Option AuthorizationPolicy :=
  lookup (·.policyVersionId) s.policies version

def rulesOf (version : String) : List AuthorizationPolicyRule :=
  s.rules.filter (·.policyVersionId == version)

/-- `policy.save()`: the index on the version id. -/
def savePolicy (p : AuthorizationPolicy) : Except PyError PolicyStore :=
  if free : ∀ q ∈ s.policies, q.policyVersionId ≠ p.policyVersionId then
    .ok { s with
      policies := s.policies ++ [p], uniqueVersions := s.uniqueVersions.append free
      owned := fun r mem => (s.owned r mem).imp fun _ h => ⟨List.mem_append_left _ h.1, h.2⟩ }
  else .error (.other "NotUniqueError")

/-- `rule.save()`: the index on the rule id. -/
def saveRule (r : AuthorizationPolicyRule)
    (of : ∃ p ∈ s.policies, p.policyVersionId = r.policyVersionId) : Except PyError PolicyStore :=
  if free : ∀ q ∈ s.rules, q.ruleId ≠ r.ruleId then
    .ok { s with
      rules := s.rules ++ [r], uniqueRules := s.uniqueRules.append free
      owned := by
        intro q mem
        rcases List.mem_append.mp mem with old | new
        · exact s.owned q old
        · exact List.mem_singleton.mp new ▸ of }
  else .error (.other "NotUniqueError")

def draw : PolicyStore := { s with drawn := s.drawn + 1 }

end PolicyStore

/-- The arguments of `create_authorization_policy_version`. -/
structure PolicyDraft where
  projectId : String
  envId : String
  name : String
  principalIds : List String
  relationIds : List String
  resourceFamily : String := ""
  action : String := "read"
  defaultDecision : Decision := .review
  samePrincipalDecision : Decision := .allow
  includeSelf : Bool := true
  caseBudget : Int := 100
  requestBudgetPerCase : Int := 3
  createdBy : String := ""
  policyKey : String := ""
  parentPolicyVersionId : String := ""

/-- `list(dict.fromkeys(_strings(names)))`. -/
def distinctNames (names : List String) : List String :=
  firstOfEach id [] (names.filter (· != ""))

def draftedPolicy (key id : String) (version : Nat) (d : PolicyDraft) : AuthorizationPolicy where
  policyKey := key
  policyVersionId := id
  projectId := d.projectId
  envId := d.envId
  name := String.ofList (strip d.name)
  version := version
  lifecycle := .draft
  principalIds := distinctNames d.principalIds
  relationIds := distinctNames d.relationIds
  resourceFamily := d.resourceFamily
  action := if d.action == "" then "read" else d.action
  defaultDecision := d.defaultDecision
  samePrincipalDecision := d.samePrincipalDecision
  includeSelf := d.includeSelf
  caseBudget := d.caseBudget
  requestBudgetPerCase := d.requestBudgetPerCase
  parentPolicyVersionId := d.parentPolicyVersionId
  createdBy := d.createdBy

/-- `str(policy_key or "policy-" + uuid.uuid4().hex)`. -/
def policyKeyOf (uuid : Nat → String) (s : PolicyStore) (key : String) : String × PolicyStore :=
  if key == "" then ("policy-" ++ uuid s.drawn, s.draw) else (key, s)

/-- `int(latest.version) + 1 if latest else 1`. -/
def nextVersion (s : PolicyStore) (key : String) : Nat :=
  (((s.policies.filter (·.policyKey == key)).map (·.version)).max?.getD 0) + 1

def createAuthorizationPolicyVersion (uuid : Nat → String) (s : PolicyStore) (d : PolicyDraft) :
    Except PyError (PolicyStore × AuthorizationPolicy) := do
  if String.ofList (strip d.name) == "" then
    throw (.valueError "authorization policy name is required")
  if (distinctNames d.principalIds).isEmpty || (distinctNames d.relationIds).isEmpty then
    throw (.valueError "authorization policy requires explicit principals and relations")
  if !(decide (1 ≤ d.caseBudget) && decide (d.caseBudget ≤ 10000)) then
    throw (.valueError "authorization policy case budget is invalid")
  if !(decide (2 ≤ d.requestBudgetPerCase) && decide (d.requestBudgetPerCase ≤ 10)) then
    throw (.valueError "authorization request budget per case is invalid")
  let keyed := policyKeyOf uuid s d.policyKey
  let policy := draftedPolicy keyed.1 ("policy-version-" ++ uuid keyed.2.drawn)
    (nextVersion keyed.2 keyed.1) d
  let saved ← keyed.2.draw.savePolicy policy
  return (saved, policy)

/-- The arguments of `add_authorization_policy_rule`. -/
structure RuleDraft where
  priority : Int := 100
  subjectSelector : Dict := []
  ownerSelector : Dict := []
  scopeRelation : ScopeRelation := .any
  resourceFamily : String := ""
  action : String := "read"
  expectedDecision : Decision
  reasonCodes : List String := []
  description : String := ""

/-- The rule a draft becomes, with its selectors normalised. -/
def draftedRule (id version : String) (d : RuleDraft) (subject owner : Dict) :
    AuthorizationPolicyRule where
  ruleId := id
  policyVersionId := version
  priority := d.priority
  subjectSelector := subject
  ownerSelector := owner
  scopeRelation := d.scopeRelation
  resourceFamily := d.resourceFamily
  action := if d.action == "" then "read" else d.action
  expectedDecision := d.expectedDecision
  reasonCodes := d.reasonCodes.filter (· != "")
  description := (d.description.take 1000).toString
  active := true

def addAuthorizationPolicyRule (uuid : Nat → String) (s : PolicyStore) (version : String)
    (d : RuleDraft) : Except PyError PolicyStore :=
  match found : s.policy? version with
  | none => .error (.valueError "authorization policy not found")
  | some policy =>
    if policy.lifecycle ≠ .draft then
      .error (.valueError "active authorization policy versions are immutable")
    else do
      let subject ← validateSelector d.subjectSelector
      let owner ← validateSelector d.ownerSelector
      s.draw.saveRule (draftedRule ("rule-" ++ uuid s.drawn) policy.policyVersionId d subject owner)
        ⟨policy, lookup_mem found, rfl⟩

def cloneDraft (source : AuthorizationPolicy) (createdBy : String) : PolicyDraft where
  projectId := source.projectId
  envId := source.envId
  name := source.name
  principalIds := source.principalIds
  relationIds := source.relationIds
  resourceFamily := source.resourceFamily
  action := if source.action == "" then "read" else source.action
  defaultDecision := source.defaultDecision
  samePrincipalDecision := source.samePrincipalDecision
  includeSelf := source.includeSelf
  caseBudget := if source.caseBudget = 0 then 100 else source.caseBudget
  requestBudgetPerCase := if source.requestBudgetPerCase = 0 then 3 else source.requestBudgetPerCase
  createdBy := createdBy
  policyKey := source.policyKey
  parentPolicyVersionId := source.policyVersionId

/-- The draft a clone makes of a rule: `active` is not among its arguments. -/
def cloneRuleDraft (rule : AuthorizationPolicyRule) : RuleDraft where
  priority := rule.priority
  subjectSelector := rule.subjectSelector
  ownerSelector := rule.ownerSelector
  scopeRelation := rule.scopeRelation
  resourceFamily := rule.resourceFamily
  action := if rule.action == "" then "read" else rule.action
  expectedDecision := rule.expectedDecision
  reasonCodes := rule.reasonCodes
  description := rule.description

/-- The loop over the rules of the source. -/
def cloneRules (uuid : Nat → String) (version : String) :
    List AuthorizationPolicyRule → PolicyStore → Except PyError PolicyStore
  | [], s => .ok s
  | rule :: rest, s => do
    let s ← addAuthorizationPolicyRule uuid s version (cloneRuleDraft rule)
    cloneRules uuid version rest s

def cloneAuthorizationPolicyVersion (uuid : Nat → String) (s : PolicyStore) (version createdBy : String) :
    Except PyError (PolicyStore × AuthorizationPolicy) :=
  match s.policy? version with
  | none => .error (.valueError "authorization policy not found")
  | some source => do
    let (created, clone) ← createAuthorizationPolicyVersion uuid s (cloneDraft source createdBy)
    let rules := (created.rulesOf source.policyVersionId).insertionSort fun a b => b.priority ≤ a.priority
    let cloned ← cloneRules uuid clone.policyVersionId rules created
    return (cloned, clone)

end ApiManger.Authorization
