import ApiManger.Authorization.Expansion

/-!
# The expanded matrix is complete

What `expand_authorization_matrix` returns has each resource group, owner and subject among
the selected principals exactly once, decided by the first rule that matches, whatever the
order of the rules and of the resource groups is.
-/

namespace ApiManger.Authorization
open Python Collection

/-! ## One cell -/

section
variable {policy : AuthorizationPolicy} {rules rules' : List AuthorizationPolicyRule} {cell : Cell}

theorem covers_iff {rule : AuthorizationPolicyRule} : covers cell rule = true ↔ ruleMatches rule cell = .ok true := by
  unfold covers
  rcases ruleMatches rule cell with e | b
  · simp
  · simp

/-- The loop over the rules stops at the first one that matches. -/
theorem firstMatch_find? {found : Option AuthorizationPolicyRule} (resolved : firstMatch cell rules = .ok found) :
    rules.find? (covers cell) = found := by
  induction rules with
  | nil => exact Except.ok.inj resolved
  | cons rule rest ih =>
    rw [firstMatch] at resolved
    obtain ⟨b, answer, resolved⟩ := bind_eq_ok.mp resolved
    have covered : covers cell rule = b := by rw [covers, answer]
    rw [List.find?_cons, covered]
    cases b with
    | true => exact Except.ok.inj resolved
    | false => exact ih resolved

/-- Where the loop finds no rule, each was asked. -/
theorem firstMatch_none (resolved : firstMatch cell rules = .ok none) : ∀ rule ∈ rules, ruleMatches rule cell = .ok false := by
  induction rules with
  | nil => exact fun _ mem => by cases mem
  | cons rule rest ih =>
    rw [firstMatch] at resolved
    obtain ⟨b, answer, resolved⟩ := bind_eq_ok.mp resolved
    cases b with
    | true => cases resolved
    | false =>
      intro other mem
      rcases List.mem_cons.mp mem with rfl | mem
      · exact answer
      · exact ih resolved other mem

/-- The rule of a decision: the active one that matches, of the greatest priority and then the least id;
or none matches. -/
inductive Decides (policy : AuthorizationPolicy) (rules : List AuthorizationPolicyRule) (cell : Cell) :
    Decision → String → Prop
  | rule (rule : AuthorizationPolicyRule)
      (first : First ruleOrder (fun r => r.active = true ∧ ruleMatches r cell = .ok true) rules rule) :
      Decides policy rules cell rule.expectedDecision rule.ruleId
  | default (none : ∀ rule ∈ rules, rule.active = true → ruleMatches rule cell = .ok false) :
      Decides policy rules cell (fallbackDecision policy cell) ""

theorem resolve_decides {e : Expectation} (resolved : resolveAuthorizationExpectation policy rules cell = .ok e) :
    Decides policy rules cell e.expectedDecision e.matchedRuleId := by
  obtain ⟨found, matched, resolved⟩ := bind_eq_ok.mp resolved
  cases found with
  | none =>
    cases Except.ok.inj resolved
    refine .default fun rule mem active => firstMatch_none matched rule ?_
    exact (List.mem_insertionSort ruleOrder).mpr (List.mem_filter.mpr ⟨mem, active⟩)
  | some rule =>
    cases Except.ok.inj resolved
    obtain ⟨mem, holds, least⟩ := find?_insertionSort ruleOrder (firstMatch_find? matched)
    obtain ⟨mem, active⟩ := List.mem_filter.mp mem
    refine .rule rule ⟨mem, ⟨active, covers_iff.mp holds⟩, ?_⟩
    rintro other there ⟨active, holds⟩
    exact least other (List.mem_filter.mpr ⟨there, active⟩) (covers_iff.mpr holds)

/-- Rules of different ids have one order only. -/
theorem insertionSort_rules (distinct : (rules.map (·.ruleId)).Nodup) (perm : rules.Perm rules') :
    rules'.insertionSort ruleOrder = rules.insertionSort ruleOrder := by
  have same : (rules'.insertionSort ruleOrder).Perm (rules.insertionSort ruleOrder) :=
    (List.perm_insertionSort ruleOrder rules').trans (perm.symm.trans (List.perm_insertionSort ruleOrder rules).symm)
  refine same.eq_of_pairwise ?_ (List.pairwise_insertionSort ruleOrder rules') (List.pairwise_insertionSort ruleOrder rules)
  intro a b here there ab ba
  have here : a ∈ rules := perm.mem_iff.mpr ((List.mem_insertionSort ruleOrder).mp here)
  have there : b ∈ rules := (List.mem_insertionSort ruleOrder).mp there
  refine List.inj_on_of_nodup_map distinct here there ?_
  rcases ab with less | ⟨same, le⟩
  · rcases ba with less' | ⟨same', -⟩
    · exact absurd less (not_lt_of_gt less')
    · exact absurd same' (ne_of_gt less).symm
  · rcases ba with less' | ⟨-, le'⟩
    · exact absurd same (ne_of_gt less').symm
    · exact le_antisymm le le'

theorem resolve_perm (distinct : (rules.map (·.ruleId)).Nodup) (perm : rules.Perm rules') :
    resolveAuthorizationExpectation policy rules' cell = resolveAuthorizationExpectation policy rules cell := by
  have active : ((rules.filter (·.active)).map (·.ruleId)).Nodup := distinct.sublist (List.filter_sublist.map _)
  simp only [resolveAuthorizationExpectation, insertionSort_rules active (perm.filter _)]

end

/-! ## The cases of a resource group -/

section
variable {stableHash : CaseIdentity → String} {policy : AuthorizationPolicy} {rules : List AuthorizationPolicyRule}

/-- A case of a resource group and a pair of principals. -/
structure IsCase (stableHash : CaseIdentity → String) (policy : AuthorizationPolicy) (rules : List AuthorizationPolicyRule)
    (resource : Dict) (owner subject : AuthorizationPrincipal) (c : AuthorizationCaseSpec) : Prop where
  relationIds : groupRelationIds resource = .ok c.relationIds
  resourceKey : c.resourceKey = keyOr resource c.relationIds
  resourceFamily : c.resourceFamily = (Dict.get resource "resource_family").strOrEmpty
  action : c.action = groupAction policy resource
  owner : c.owner = owner
  subject : c.subject = subject
  caseKey : c.caseKey = "authorization-case:" ++ stableHash (c.identity policy)
  decided : Decides policy rules ⟨c.owner, c.subject, c.resourceFamily, c.action⟩ c.expectedDecision c.matchedRuleId

theorem groupCase_isCase {resource : Dict} {relationIds : List String}
    {pair : AuthorizationPrincipal × AuthorizationPrincipal} {c : AuthorizationCaseSpec}
    (listed : groupRelationIds resource = .ok relationIds)
    (made : groupCase stableHash policy rules resource relationIds pair = .ok c) :
    IsCase stableHash policy rules resource pair.1 pair.2 c := by
  obtain ⟨e, resolved, made⟩ := bind_eq_ok.mp made
  cases Except.ok.inj made
  exact ⟨listed, rfl, rfl, rfl, rfl, rfl, rfl, resolve_decides resolved⟩

/-- The cases of a group are those of its pairs, in their order. -/
theorem groupCases_spec {selected : List AuthorizationPrincipal} {resource : Dict} {cases : List AuthorizationCaseSpec}
    (made : groupCases stableHash policy rules selected resource = .ok cases) :
    List.Forall₂ (fun pair c => IsCase stableHash policy rules resource pair.1 pair.2 c)
      (orderedPairs (fun a b => hasCase policy a.principalId b.principalId) selected) cases := by
  obtain ⟨relationIds, listed, made⟩ := bind_eq_ok.mp made
  obtain ⟨-, made⟩ := guard_eq_ok.mp made
  exact (mapM_ok made).imp fun pair c one => groupCase_isCase listed one

end

/-! ## The selected principals -/

section
variable {principals : List ListedPrincipal} {policy : AuthorizationPolicy}

theorem principalById_id {id : String} {p : AuthorizationPrincipal} (found : principalById principals id = some p) :
    p.principalId = id := by
  obtain ⟨listed, here, rfl⟩ := Option.map_eq_some_iff.mp found
  have named := List.find?_some here
  exact beq_iff_eq.mp named

/-- Where no principal is missing, the selected ones have the ids of the policy, in their order. -/
theorem selected_ids {ids : List String} (present : ids.filter (fun id => (principalById principals id).isNone) = []) :
    (ids.filterMap (principalById principals)).map (·.principalId) = ids := by
  induction ids with
  | nil => rfl
  | cons id ids ih =>
    rw [List.filter_eq_nil_iff] at present
    have rest := ih (List.filter_eq_nil_iff.mpr fun other mem => present other (.tail _ mem))
    cases found : principalById principals id with
    | none => exact absurd (by rw [found]; rfl) (present id (.head _))
    | some p => rw [List.filterMap_cons_some found, List.map_cons, rest, principalById_id found]

end

/-! ## The whole matrix -/

def groupKey (resource : Dict) : String :=
  match groupRelationIds resource with
  | .ok relationIds => keyOr resource relationIds
  | .error _ => ""

/-- What a case is about: the key of a resource group, its owner and the subject. -/
def AuthorizationCaseSpec.combination (c : AuthorizationCaseSpec) : String × String × String :=
  (c.resourceKey, c.owner.principalId, c.subject.principalId)

section
variable {stableHash : CaseIdentity → String} {policy : AuthorizationPolicy} {rules rules' : List AuthorizationPolicyRule}
  {principals : List ListedPrincipal} {resources resources' : List Dict} {cases : List AuthorizationCaseSpec}
  {selected : List AuthorizationPrincipal}

theorem group_combinations {resource : Dict} {pairs : List (AuthorizationPrincipal × AuthorizationPrincipal)}
    (made : List.Forall₂ (fun pair c => IsCase stableHash policy rules resource pair.1 pair.2 c) pairs cases) :
    cases.map (·.combination) = (pairs.map (Prod.map (·.principalId) (·.principalId))).map (groupKey resource, ·) := by
  induction made with
  | nil => rfl
  | @cons pair c _ _ one _ ih =>
    have key : groupKey resource = keyOr resource c.relationIds := by rw [groupKey, one.relationIds]
    rw [List.map_cons, List.map_cons, List.map_cons, ih, AuthorizationCaseSpec.combination, one.resourceKey,
      one.owner, one.subject, key]
    rfl

/-- The cases of some groups are about each key of a group and each pair of ids. -/
theorem groups_combinations {groups : List (List AuthorizationCaseSpec)}
    (made : List.Forall₂ (fun resource cases => groupCases stableHash policy rules selected resource = .ok cases)
      resources groups) :
    groups.flatten.map (·.combination) =
      (resources.map groupKey) ×ˢ orderedPairs (hasCase policy) (selected.map (·.principalId)) := by
  induction made with
  | nil => rfl
  | cons one _ ih =>
    have head := group_combinations (groupCases_spec one)
    have ids := orderedPairs_map AuthorizationPrincipal.principalId (hasCase policy) selected
    rw [ids] at head
    rw [List.flatten_cons, List.map_append, head, ih, List.map_cons, List.product_cons]

/-- Each case is one of a group and of two of the selected principals. -/
theorem groups_cases {groups : List (List AuthorizationCaseSpec)}
    (made : List.Forall₂ (fun resource cases => groupCases stableHash policy rules selected resource = .ok cases)
      resources groups) :
    ∀ c ∈ groups.flatten, ∃ resource ∈ resources, ∃ owner ∈ selected, ∃ subject ∈ selected,
      IsCase stableHash policy rules resource owner subject c := by
  intro c mem
  obtain ⟨cs, there, mem⟩ := List.mem_flatten.mp mem
  obtain ⟨resource, listed, one⟩ := forall₂_right made cs there
  obtain ⟨pair, among, isCase⟩ := forall₂_right (groupCases_spec one) c mem
  obtain ⟨owner, subject, -⟩ := mem_orderedPairs.mp among
  exact ⟨resource, listed, pair.1, owner, pair.2, subject, isCase⟩

/-- What `expand_authorization_matrix` went through where it returned. -/
structure Expanded (stableHash : CaseIdentity → String) (policy : AuthorizationPolicy) (rules : List AuthorizationPolicyRule)
    (principals : List ListedPrincipal) (resources : List Dict) (cases : List AuthorizationCaseSpec)
    (selected : List AuthorizationPrincipal) (groups : List (List AuthorizationCaseSpec)) : Prop where
  chosen : selected = (selectedIds policy).filterMap (principalById principals)
  ids : selected.map (·.principalId) = selectedIds policy
  budget : (requiredCases policy selected.length resources.length : Int) ≤ policy.caseBudget
  made : (resources.insertionSort fun a b => (Dict.get a "resource_key").strOrEmpty ≤
    (Dict.get b "resource_key").strOrEmpty).mapM (groupCases stableHash policy rules selected) = .ok groups
  all : cases = groups.flatten

theorem expanded (returned : expandAuthorizationMatrix stableHash policy rules principals resources = .ok cases) :
    ∃ selected groups, Expanded stableHash policy rules principals resources cases selected groups := by
  simp only [expandAuthorizationMatrix, guard_eq_ok] at returned
  obtain ⟨present, -, -, -, budget, -, returned⟩ := returned
  obtain ⟨groups, made, returned⟩ := bind_eq_ok.mp returned
  cases Except.ok.inj returned
  refine ⟨_, groups, rfl, selected_ids ?_, not_lt.mp budget, made, rfl⟩
  simpa using present

theorem sorted_groups (resources : List Dict) : (resources.insertionSort fun a b =>
    (Dict.get a "resource_key").strOrEmpty ≤ (Dict.get b "resource_key").strOrEmpty).Perm resources :=
  List.perm_insertionSort _ resources

theorem groupCase_perm (distinct : (rules.map (·.ruleId)).Nodup) (perm : rules.Perm rules') (resource : Dict) :
    groupCases stableHash policy rules' selected resource = groupCases stableHash policy rules selected resource := by
  have same (relationIds : List String) :
      groupCase stableHash policy rules' resource relationIds = groupCase stableHash policy rules resource relationIds := by
    funext pair
    simp only [groupCase, resolve_perm distinct perm]
  simp only [groupCases, same]

/-- The rules and the resource groups in another order expand to the cases in another order. -/
theorem expandAuthorizationMatrix_perm (distinct : (rules.map (·.ruleId)).Nodup) (perm : rules.Perm rules')
    (permuted : resources.Perm resources')
    (returned : expandAuthorizationMatrix stableHash policy rules principals resources = .ok cases) :
    ∃ cases', expandAuthorizationMatrix stableHash policy rules' principals resources' = .ok cases' ∧
      cases.Perm cases' := by
  have length : resources'.length = resources.length := permuted.length_eq.symm
  have empty : resources'.isEmpty = resources.isEmpty := permuted.isEmpty_eq.symm
  simp only [expandAuthorizationMatrix, guard_eq_ok] at returned
  obtain ⟨present, some, listed, range, budget, requests, returned⟩ := returned
  obtain ⟨groups, made, returned⟩ := bind_eq_ok.mp returned
  cases Except.ok.inj returned
  have sorted := (sorted_groups resources).trans (permuted.trans (sorted_groups resources').symm)
  obtain ⟨groups', made', same⟩ := mapM_perm sorted made
  refine ⟨groups'.flatten, ?_, same.flatten⟩
  simp only [expandAuthorizationMatrix, guard_eq_ok, length, empty, funext (groupCase_perm distinct perm)]
  refine ⟨present, some, listed, range, budget, requests, ?_⟩
  rw [made', ok_bind]
  rfl

theorem selectedIds_nodup (distinct : policy.principalIds.Nodup) : (selectedIds policy).Nodup := distinct.filter _

/-- How many pairs of ids have a case. -/
theorem length_pairs (distinct : (selectedIds policy).Nodup) :
    (orderedPairs (hasCase policy) (selectedIds policy)).length =
      (selectedIds policy).length * (if policy.includeSelf then (selectedIds policy).length else (selectedIds policy).length - 1) := by
  cases self : policy.includeSelf with
  | true => exact length_orderedPairs_of_all fun a b => by rw [hasCase, self, Bool.true_or]
  | false => exact length_orderedPairs_of_ne distinct fun a b => by rw [hasCase, self, Bool.false_or]

/-- The complete matrix of a policy over some resource groups. -/
structure CompleteMatrix (stableHash : CaseIdentity → String) (policy : AuthorizationPolicy)
    (rules : List AuthorizationPolicyRule) (resources : List Dict) (cases : List AuthorizationCaseSpec) : Prop where
  once : (cases.map (·.combination)).Nodup
  every : ∀ combination, combination ∈ cases.map (·.combination) ↔ combination.1 ∈ resources.map groupKey ∧
    combination.2.1 ∈ selectedIds policy ∧ combination.2.2 ∈ selectedIds policy ∧
    (policy.includeSelf = true ∨ combination.2.1 ≠ combination.2.2)
  number : cases.length = requiredCases policy (selectedIds policy).length resources.length
  budget : (cases.length : Int) ≤ policy.caseBudget
  keys : (cases.map (·.caseKey)).Nodup
  decided : ∀ c ∈ cases, ∃ resource ∈ resources, ∃ owner subject, IsCase stableHash policy rules resource owner subject c

end

/-! ## Two principals -/

def orderPolicy : AuthorizationPolicy where
  policyKey := "policy-1"
  policyVersionId := "policy-version-1"
  projectId := "shop"
  envId := "test"
  name := "orders"
  principalIds := ["alice", "bob"]
  relationIds := ["r1"]
  includeSelf := false

def orderRules : List AuthorizationPolicyRule :=
  [{ ruleId := "rule-1", policyVersionId := "policy-version-1", scopeRelation := .different, expectedDecision := .deny }]

def orderPrincipals : List ListedPrincipal :=
  [⟨{ principalId := "alice", scopeKey := "a" }, true⟩, ⟨{ principalId := "bob", scopeKey := "b" }, true⟩]

def orderGroups : List Dict := [[("resource_key", .str "r1"), ("relation_ids", .arr [.str "r1"])]]

def orderCase (owner subject : ListedPrincipal) : AuthorizationCaseSpec where
  caseKey := "authorization-case:" ++ owner.principal.principalId ++ "/" ++ subject.principal.principalId
  resourceKey := "r1"
  relationIds := ["r1"]
  resourceFamily := ""
  action := "read"
  owner := owner.principal
  subject := subject.principal
  expectedDecision := .deny
  matchedRuleId := "rule-1"
  reasonCodes := []

end ApiManger.Authorization
