import Mathlib.Algebra.Order.BigOperators.Group.List
import Mathlib.Data.String.Basic
import ApiManger.Authorization.Selectors

/-!
# Cloned policy versions

A clone re-creates every rule of its source through `add_authorization_policy_rule`:
active whatever the source was, with a rule id drawn anew, and with `read` for an
action that was left open. A cell keeps its decision exactly where none of this can
put another decision first.
-/

namespace ApiManger.Authorization
open Python Collection

/-! ## Rules with valid selectors -/

/-- Both selectors of a rule pass their validation. -/
def ValidSelectors (rule : AuthorizationPolicyRule) : Prop :=
  ∃ subject owner, validateSelector rule.subjectSelector = .ok subject ∧
    validateSelector rule.ownerSelector = .ok owner

/-- Whether a rule matches a cell. -/
def covers (cell : Cell) (rule : AuthorizationPolicyRule) : Bool :=
  match ruleMatches rule cell with
  | .ok b => b
  | .error _ => false

variable {rule : AuthorizationPolicyRule} {rules : List AuthorizationPolicyRule} {uuid : Nat → String}
  {version : String} {s s' : PolicyStore} {p source : AuthorizationPolicy} {d : PolicyDraft} {cell : Cell}

theorem ruleMatches_valid (valid : ValidSelectors rule) (cell : Cell) :
    ruleMatches rule cell = .ok (covers cell rule) := by
  obtain ⟨subject, owner, validSubject, validOwner⟩ := valid
  unfold covers
  have answers : ∃ b, ruleMatches rule cell = .ok b := by
    simp only [ruleMatches, selectorMatches, validSubject, validOwner, Except.map]
    split
    · exact ⟨_, rfl⟩
    · simp only [bind, Except.bind]
      split
      · exact ⟨_, rfl⟩
      · exact ⟨_, rfl⟩
  obtain ⟨b, answer⟩ := answers
  rw [answer]

theorem firstMatch_valid (valid : ∀ r ∈ rules, ValidSelectors r)
    (cell : Cell) : firstMatch cell rules = .ok (rules.find? (covers cell)) := by
  induction rules with
  | nil => rfl
  | cons rule rest ih =>
    rw [firstMatch, ruleMatches_valid (valid rule (by simp)), List.find?_cons]
    cases covers cell rule with
    | true => rfl
    | false => exact ih fun r mem => valid r (List.mem_cons_of_mem _ mem)

def decidingRule (rules : List AuthorizationPolicyRule) (cell : Cell) : Option AuthorizationPolicyRule :=
  ((rules.filter (·.active)).insertionSort ruleOrder).find? (covers cell)

theorem resolve_valid (valid : ∀ r ∈ rules, ValidSelectors r)
    (policy : AuthorizationPolicy) (cell : Cell) :
    (resolveAuthorizationExpectation policy rules cell).map (·.expectedDecision) =
      .ok ((decidingRule rules cell).elim (fallbackDecision policy cell) (·.expectedDecision)) := by
  have active : ∀ r ∈ (rules.filter (·.active)).insertionSort ruleOrder, ValidSelectors r := by
    intro r mem
    exact valid r (List.mem_filter.mp ((List.mem_insertionSort _).mp mem)).1
  simp only [resolveAuthorizationExpectation, firstMatch_valid active, decidingRule]
  cases ((rules.filter (·.active)).insertionSort ruleOrder).find? (covers cell) <;> rfl

instance : Std.Total ruleOrder where
  total a b := by
    unfold ruleOrder
    rcases lt_trichotomy a.priority b.priority with less | same | more
    · exact .inr (.inl less)
    · rcases le_total a.ruleId b.ruleId with le | le
      · exact .inl (.inr ⟨same, le⟩)
      · exact .inr (.inr ⟨same.symm, le⟩)
    · exact .inl (.inl more)

instance : IsTrans AuthorizationPolicyRule ruleOrder where
  trans a b c := by
    rintro (ab | ⟨ab, ab'⟩) (bc | ⟨bc, bc'⟩)
    · exact .inl (bc.trans ab)
    · exact .inl (bc ▸ ab)
    · exact .inl (ab ▸ bc)
    · exact .inr ⟨ab.trans bc, ab'.trans bc'⟩

/-! ## The copies -/

/-- The normalised selector. -/
def validated (selector : Dict) : Dict :=
  match validateSelector selector with
  | .ok v => v
  | .error _ => []

theorem validated_eq {selector v : Dict} (h : validateSelector selector = .ok v) :
    validated selector = v := by simp [validated, h]

/-- The copy of a rule under the `n`-th name drawn. -/
def copyRule (uuid : Nat → String) (version : String) (n : Nat) (rule : AuthorizationPolicyRule) :
    AuthorizationPolicyRule :=
  draftedRule ("rule-" ++ uuid n) version (cloneRuleDraft rule) (validated rule.subjectSelector)
    (validated rule.ownerSelector)

/-- The copies of a list of rules, from the `n`-th name on. -/
def copyRules (uuid : Nat → String) (version : String) (n : Nat)
    (rules : List AuthorizationPolicyRule) : List AuthorizationPolicyRule :=
  (rules.zipIdx n).map fun (rule, k) => copyRule uuid version k rule

/-- A rule as its copy acts. -/
def revived (rule : AuthorizationPolicyRule) : AuthorizationPolicyRule :=
  { rule with action := if rule.action == "" then "read" else rule.action }

theorem copyRule_action (rule : AuthorizationPolicyRule) (id version : String) (subject owner : Dict) :
    (draftedRule id version (cloneRuleDraft rule) subject owner).action = (revived rule).action := by
  simp only [draftedRule, cloneRuleDraft, revived]
  split <;> simp_all

theorem copyRule_valid (valid : ValidSelectors rule)
    (uuid : Nat → String) (version : String) (n : Nat) : ValidSelectors (copyRule uuid version n rule) := by
  obtain ⟨subject, owner, validSubject, validOwner⟩ := valid
  obtain ⟨subject', again, _⟩ := validateSelector_stable validSubject
  obtain ⟨owner', again', _⟩ := validateSelector_stable validOwner
  exact ⟨subject', owner', by rw [← again, ← validated_eq validSubject]; rfl,
    by rw [← again', ← validated_eq validOwner]; rfl⟩

/-- A copy covers what its rule would cover with its action settled. -/
theorem covers_copyRule (valid : ValidSelectors rule)
    (uuid : Nat → String) (version : String) (n : Nat) (cell : Cell) :
    covers cell (copyRule uuid version n rule) = covers cell (revived rule) := by
  obtain ⟨subject, owner, validSubject, validOwner⟩ := valid
  have applies : ruleApplies (copyRule uuid version n rule) cell = ruleApplies (revived rule) cell := by
    simp only [ruleApplies, copyRule, copyRule_action]
    rfl
  have same : ruleMatches (copyRule uuid version n rule) cell = ruleMatches (revived rule) cell := by
    have owners : selectorMatches (copyRule uuid version n rule).ownerSelector cell.owner =
        selectorMatches (revived rule).ownerSelector cell.owner := by
      rw [show (copyRule uuid version n rule).ownerSelector = owner from validated_eq validOwner]
      exact selectorMatches_validated validOwner cell.owner
    have subjects : selectorMatches (copyRule uuid version n rule).subjectSelector cell.subject =
        selectorMatches (revived rule).subjectSelector cell.subject := by
      rw [show (copyRule uuid version n rule).subjectSelector = subject from validated_eq validSubject]
      exact selectorMatches_validated validSubject cell.subject
    simp only [ruleMatches, applies, owners, subjects]
  simp only [covers, same]

/-- A copy comes from a rule, under a name of its own. -/
theorem mem_copyRules {n : Nat} {c : AuthorizationPolicyRule} :
    c ∈ copyRules uuid version n rules ↔
      ∃ i r, rules[i]? = some r ∧ c = copyRule uuid version (n + i) r := by
  simp only [copyRules, List.mem_map, Prod.exists, List.mk_mem_zipIdx_iff_le_and_getElem?_sub]
  constructor
  · rintro ⟨r, k, ⟨le, found⟩, rfl⟩
    exact ⟨k - n, r, found, by rw [Nat.add_sub_cancel' le]⟩
  · rintro ⟨i, r, found, rfl⟩
    exact ⟨r, n + i, ⟨Nat.le_add_right n i, by rwa [Nat.add_sub_cancel_left]⟩, rfl⟩

/-! ## Creating and copying -/

/-- A draft that passes the checks of its creation. -/
structure Creatable (d : PolicyDraft) : Prop where
  named : String.ofList (strip d.name) ≠ ""
  principals : distinctNames d.principalIds ≠ []
  relations : distinctNames d.relationIds ≠ []
  cases : 1 ≤ d.caseBudget ∧ d.caseBudget ≤ 10000
  requests : 2 ≤ d.requestBudgetPerCase ∧ d.requestBudgetPerCase ≤ 10

/-- What the creation of a version leaves behind. -/
structure Created (uuid : Nat → String) (s : PolicyStore) (d : PolicyDraft) (s' : PolicyStore)
    (p : AuthorizationPolicy) : Prop where
  policies : s'.policies = s.policies ++ [p]
  rules : s'.rules = s.rules
  new : ∀ q ∈ s.policies, q.policyVersionId ≠ p.policyVersionId
  draft : p.lifecycle = .draft
  fallback : ∀ source createdBy, d = cloneDraft source createdBy → ∀ cell,
    fallbackDecision p cell = fallbackDecision source cell

theorem policyKeyOf_keeps (uuid : Nat → String) (s : PolicyStore) (key : String) :
    (policyKeyOf uuid s key).2.policies = s.policies ∧ (policyKeyOf uuid s key).2.rules = s.rules := by
  unfold policyKeyOf
  split <;> exact ⟨rfl, rfl⟩

theorem savePolicy_iff :
    s.savePolicy p = .ok s' ↔ (∀ q ∈ s.policies, q.policyVersionId ≠ p.policyVersionId) ∧
      s'.policies = s.policies ++ [p] ∧ s'.rules = s.rules ∧ s'.drawn = s.drawn := by
  unfold PolicyStore.savePolicy
  split
  · rename_i free
    constructor
    · intro h
      cases h
      exact ⟨free, rfl, rfl, rfl⟩
    · rintro ⟨_, policies, rules, drawn⟩
      cases s'
      simp_all
  · rename_i taken
    simp [taken]

theorem creation_iff :
    createAuthorizationPolicyVersion uuid s d = .ok (s', p) ↔ Creatable d ∧
      p = draftedPolicy (policyKeyOf uuid s d.policyKey).1
        ("policy-version-" ++ uuid (policyKeyOf uuid s d.policyKey).2.drawn)
        (nextVersion (policyKeyOf uuid s d.policyKey).2 (policyKeyOf uuid s d.policyKey).1) d ∧
      (policyKeyOf uuid s d.policyKey).2.draw.savePolicy p = .ok s' := by
  unfold createAuthorizationPolicyVersion
  simp only [guard_eq_ok, bind_eq_ok, Bool.not_eq_true, beq_eq_false_iff_ne, Bool.or_eq_false_iff,
    List.isEmpty_eq_false_iff, Bool.not_eq_false', Bool.and_eq_true, decide_eq_true_eq]
  constructor
  · rintro ⟨named, ⟨principals, relations⟩, cases, requests, saved, save, result⟩
    cases result
    exact ⟨⟨named, principals, relations, cases, requests⟩, rfl, save⟩
  · rintro ⟨valid, rfl, save⟩
    exact ⟨valid.named, ⟨valid.principals, valid.relations⟩, valid.cases, valid.requests, s', save, rfl⟩

theorem created_of_creation (h : createAuthorizationPolicyVersion uuid s d = .ok (s', p)) :
    Created uuid s d s' p := by
  obtain ⟨_, rfl, save⟩ := creation_iff.mp h
  obtain ⟨policies, rules⟩ := policyKeyOf_keeps uuid s d.policyKey
  obtain ⟨free, policies', rules', _⟩ := savePolicy_iff.mp save
  exact {
    policies := by rw [policies', ← policies]; rfl
    rules := by rw [rules', ← rules]; rfl
    new := fun q mem => free q (show q ∈ (policyKeyOf uuid s d.policyKey).2.policies from policies ▸ mem)
    draft := rfl
    fallback := by rintro source createdBy rfl cell; rfl }

theorem saveRule_iff {r : AuthorizationPolicyRule}
    (of : ∃ p ∈ s.policies, p.policyVersionId = r.policyVersionId) :
    s.saveRule r of = .ok s' ↔ (∀ q ∈ s.rules, q.ruleId ≠ r.ruleId) ∧
      s'.policies = s.policies ∧ s'.drawn = s.drawn ∧ s'.rules = s.rules ++ [r] := by
  unfold PolicyStore.saveRule
  split
  · rename_i free
    constructor
    · intro h
      cases h
      exact ⟨free, rfl, rfl, rfl⟩
    · rintro ⟨_, policies, drawn, rules⟩
      cases s'
      simp_all
  · rename_i taken
    simp [taken]

theorem copyRule_eq {subject owner : Dict}
    (validSubject : validateSelector rule.subjectSelector = .ok subject)
    (validOwner : validateSelector rule.ownerSelector = .ok owner) (uuid : Nat → String)
    (version : String) (n : Nat) : copyRule uuid version n rule =
      draftedRule ("rule-" ++ uuid n) version (cloneRuleDraft rule) subject owner := by
  rw [copyRule, validated_eq validSubject, validated_eq validOwner]

/-- A rule is added where its selectors are valid and its name is new. -/
theorem addRule_iff
    (found : s.policy? p.policyVersionId = some p) (draft : p.lifecycle = .draft) :
    addAuthorizationPolicyRule uuid s p.policyVersionId (cloneRuleDraft rule) = .ok s' ↔
      ValidSelectors rule ∧ (∀ q ∈ s.rules, q.ruleId ≠ "rule-" ++ uuid s.drawn) ∧
      s'.policies = s.policies ∧ s'.drawn = s.drawn + 1 ∧
      s'.rules = s.rules ++ [copyRule uuid p.policyVersionId s.drawn rule] := by
  unfold addAuthorizationPolicyRule
  split
  · rename_i missing
    rw [missing] at found
    cases found
  · rename_i q here
    rw [here] at found
    cases found
    simp only [draft, ne_eq, not_true_eq_false, if_false, bind_eq_ok]
    constructor
    · rintro ⟨subject, validSubject, owner, validOwner, save⟩
      rw [copyRule_eq validSubject validOwner]
      exact ⟨⟨subject, owner, validSubject, validOwner⟩, (saveRule_iff _).mp save⟩
    · rintro ⟨⟨subject, owner, validSubject, validOwner⟩, saved⟩
      rw [copyRule_eq validSubject validOwner] at saved
      exact ⟨subject, validSubject, owner, validOwner, (saveRule_iff _).mpr saved⟩

theorem addRule_succeeds
    (found : s.policy? p.policyVersionId = some p) (draft : p.lifecycle = .draft) (valid : ValidSelectors rule)
    (new : ∀ q ∈ s.rules, q.ruleId ≠ "rule-" ++ uuid s.drawn) :
    ∃ s', addAuthorizationPolicyRule uuid s p.policyVersionId (cloneRuleDraft rule) = .ok s' := by
  obtain ⟨subject, owner, validSubject, validOwner⟩ := valid
  unfold addAuthorizationPolicyRule
  split
  · rename_i missing
    rw [missing] at found
    cases found
  · rename_i q here
    rw [here] at found
    cases found
    simp only [draft, ne_eq, not_true_eq_false, if_false, bind_eq_ok]
    exact ⟨_, subject, validSubject, owner, validOwner, by rw [PolicyStore.saveRule, dif_pos]; exact new⟩

/-- The loop over the rules leaves the copies behind. -/
theorem cloneRules_spec (draft : p.lifecycle = .draft)
    (found : s.policy? p.policyVersionId = some p)
    (h : cloneRules uuid p.policyVersionId rules s = .ok s') :
    (∀ r ∈ rules, ValidSelectors r) ∧
      s'.rules = s.rules ++ copyRules uuid p.policyVersionId s.drawn rules := by
  induction rules generalizing s with
  | nil => cases h; simp [copyRules]
  | cons rule rest ih =>
    obtain ⟨middle, add, h⟩ := bind_eq_ok.mp h
    obtain ⟨valid, _, policies, drawn, added⟩ := (addRule_iff found draft).mp add
    obtain ⟨valids, copies⟩ := ih (by rw [PolicyStore.policy?, policies]; exact found) h
    refine ⟨List.forall_mem_cons.mpr ⟨valid, valids⟩, ?_⟩
    rw [copies, added, drawn, List.append_assoc]
    rfl

/-- With valid selectors and new names the loop goes through. -/
theorem cloneRules_succeeds (injective : uuid.Injective)
    (draft : p.lifecycle = .draft)
    (found : s.policy? p.policyVersionId = some p) (valid : ∀ r ∈ rules, ValidSelectors r)
    (new : ∀ n, s.drawn ≤ n → ∀ q ∈ s.rules, q.ruleId ≠ "rule-" ++ uuid n) :
    ∃ s', cloneRules uuid p.policyVersionId rules s = .ok s' := by
  induction rules generalizing s with
  | nil => exact ⟨s, rfl⟩
  | cons rule rest ih =>
    obtain ⟨middle, add⟩ := addRule_succeeds found draft (valid rule (by simp)) (new s.drawn le_rfl)
    obtain ⟨_, _, policies, drawn, added⟩ := (addRule_iff found draft).mp add
    obtain ⟨s', rest'⟩ := ih (s := middle) (by rw [PolicyStore.policy?, policies]; exact found)
      (fun r mem => valid r (List.mem_cons_of_mem _ mem)) (by
        intro n le q mem
        rw [added] at mem
        rcases List.mem_append.mp mem with old | copy
        · exact new n (by omega) q old
        · rw [List.mem_singleton.mp copy]
          intro same
          have := injective (String.append_right_inj _ |>.mp same)
          omega)
    exact ⟨s', bind_eq_ok.mpr ⟨middle, add, rest'⟩⟩

/-! ## A whole clone -/

/-- What a version needs for its clone to go through. -/
structure Clonable (s : PolicyStore) (source : AuthorizationPolicy) : Prop where
  creatable : ∀ createdBy, Creatable (cloneDraft source createdBy)
  selectors : ∀ r ∈ s.rulesOf source.policyVersionId, ValidSelectors r

/-- The number of the name the first copied rule gets. -/
def firstRuleName (s : PolicyStore) (source : AuthorizationPolicy) : Nat :=
  (if source.policyKey == "" then s.drawn + 1 else s.drawn) + 1

/-- The rules in the order the clone takes them. -/
def cloneOrder (rules : List AuthorizationPolicyRule) : List AuthorizationPolicyRule :=
  rules.insertionSort fun a b => b.priority ≤ a.priority

theorem mem_cloneOrder {r : AuthorizationPolicyRule} :
    r ∈ cloneOrder rules ↔ r ∈ rules := List.mem_insertionSort _

theorem created_drawn
    {createdBy : String}
    (h : createAuthorizationPolicyVersion uuid s (cloneDraft source createdBy) = .ok (s', p)) :
    s'.drawn = firstRuleName s source := by
  obtain ⟨_, _, save⟩ := creation_iff.mp h
  obtain ⟨_, _, _, drawn⟩ := savePolicy_iff.mp save
  rw [drawn]
  simp only [policyKeyOf, cloneDraft, firstRuleName, PolicyStore.draw]
  split <;> rename_i key <;> simp [key]

/-- The new policy is found under its version id. -/
theorem Created.found (h : Created uuid s d s' p) :
    s'.policy? p.policyVersionId = some p :=
  s'.uniqueVersions.lookup_of_mem (by rw [h.policies]; simp)

/-- What a clone leaves behind. -/
theorem clone_spec {cloned : PolicyStore} {createdBy : String}
    {clone : AuthorizationPolicy} (found : s.policy? version = some source)
    (h : cloneAuthorizationPolicyVersion uuid s version createdBy = .ok (cloned, clone)) :
    Clonable s source ∧ (∀ cell, fallbackDecision clone cell = fallbackDecision source cell) ∧
      cloned.rulesOf clone.policyVersionId = copyRules uuid clone.policyVersionId
        (firstRuleName s source) (cloneOrder (s.rulesOf source.policyVersionId)) := by
  simp only [cloneAuthorizationPolicyVersion, found, bind_eq_ok, Prod.exists] at h
  obtain ⟨created, p, creation, final, loop, result⟩ := h
  cases result
  have made := created_of_creation creation
  have rulesOf : created.rulesOf source.policyVersionId = s.rulesOf source.policyVersionId := by
    simp only [PolicyStore.rulesOf, made.rules]
  rw [rulesOf] at loop
  obtain ⟨valid, rules⟩ := cloneRules_spec made.draft made.found loop
  refine ⟨⟨fun by_ => ?_, fun r mem => valid r (mem_cloneOrder.mpr mem)⟩,
    made.fallback source createdBy rfl, ?_⟩
  · obtain ⟨ok, _⟩ := creation_iff.mp creation
    exact ⟨ok.named, ok.principals, ok.relations, ok.cases, ok.requests⟩
  · have old : s.rules.filter (·.policyVersionId == clone.policyVersionId) = [] := by
      rw [List.filter_eq_nil_iff]
      intro r mem same
      obtain ⟨q, here, eq⟩ := s.owned r mem
      exact made.new q here (eq.trans (beq_iff_eq.mp same))
    have new : (copyRules uuid clone.policyVersionId created.drawn
        (cloneOrder (s.rulesOf source.policyVersionId))).filter
        (·.policyVersionId == clone.policyVersionId) =
          copyRules uuid clone.policyVersionId created.drawn
            (cloneOrder (s.rulesOf source.policyVersionId)) := by
      rw [List.filter_eq_self]
      intro c mem
      obtain ⟨i, r, _, rfl⟩ := mem_copyRules.mp mem
      exact beq_self_eq_true _
    rw [PolicyStore.rulesOf, rules, made.rules, List.filter_append, old, List.nil_append,
      ← created_drawn creation]
    exact new

/-- Names that are all different and not taken. -/
structure FreshNames (uuid : Nat → String) (s : PolicyStore) : Prop where
  injective : uuid.Injective
  policies : ∀ n, ∀ p ∈ s.policies, p.policyVersionId ≠ "policy-version-" ++ uuid n
  rules : ∀ n, ∀ r ∈ s.rules, r.ruleId ≠ "rule-" ++ uuid n

/-- A clonable version is cloned under fresh names. -/
theorem clone_succeeds (found : s.policy? version = some source)
    (clonable : Clonable s source) (fresh : FreshNames uuid s) (createdBy : String) :
    ∃ cloned clone, cloneAuthorizationPolicyVersion uuid s version createdBy = .ok (cloned, clone) := by
  obtain ⟨policies, _⟩ := policyKeyOf_keeps uuid s (cloneDraft source createdBy).policyKey
  have creation : ∃ created p,
      createAuthorizationPolicyVersion uuid s (cloneDraft source createdBy) = .ok (created, p) :=
    ⟨_, _, creation_iff.mpr ⟨clonable.creatable createdBy, rfl, by
      rw [PolicyStore.savePolicy, dif_pos]
      exact fun q mem => fresh.policies _ q (policies ▸ mem)⟩⟩
  obtain ⟨created, p, creation⟩ := creation
  have made := created_of_creation creation
  obtain ⟨final, loop⟩ : ∃ final, cloneRules uuid p.policyVersionId
      (cloneOrder (s.rulesOf source.policyVersionId)) created = .ok final :=
    cloneRules_succeeds fresh.injective made.draft made.found
    (fun r mem => clonable.selectors r (mem_cloneOrder.mp mem))
    (fun n _ q mem => fresh.rules n q (made.rules ▸ mem))
  have rulesOf : created.rulesOf source.policyVersionId = s.rulesOf source.policyVersionId := by
    simp only [PolicyStore.rulesOf, made.rules]
  refine ⟨final, p, ?_⟩
  simp only [cloneAuthorizationPolicyVersion, found, bind_eq_ok, Prod.exists]
  exact ⟨created, p, creation, final, by rw [rulesOf]; exact loop, rfl⟩

/-! ## Which rule decides -/

/-- `r` is among the rules of highest priority that cover the cell once they are copied. -/
def LeadsCopies (rules : List AuthorizationPolicyRule) (cell : Cell) : AuthorizationPolicyRule → Prop :=
  First (fun a b => b.priority ≤ a.priority) (fun r => covers cell (revived r) = true) rules

/-- `r` is the first active rule that covers the cell. -/
def LeadsActive (rules : List AuthorizationPolicyRule) (cell : Cell) : AuthorizationPolicyRule → Prop :=
  First ruleOrder (fun r => r.active = true ∧ covers cell r = true) rules

theorem decidingRule_active
    {a : AuthorizationPolicyRule} (h : decidingRule rules cell = some a) : LeadsActive rules cell a := by
  obtain ⟨mem, holds, least⟩ := find?_insertionSort ruleOrder h
  obtain ⟨mem, active⟩ := List.mem_filter.mp mem
  exact ⟨mem, ⟨active, holds⟩, fun b here both => least b (List.mem_filter.mpr ⟨here, both.1⟩) both.2⟩

theorem decidingRule_eq_none :
    decidingRule rules cell = none ↔ ∀ r ∈ rules, ¬(r.active = true ∧ covers cell r = true) := by
  rw [decidingRule, find?_insertionSort_eq_none]
  simp only [List.mem_filter, and_imp, not_and, Bool.not_eq_true]

/-- With distinct ids the first active rule is the one that decides. -/
theorem decidingRule_of_leads
    (distinct : Distinct (·.ruleId) rules) {a : AuthorizationPolicyRule}
    (h : LeadsActive rules cell a) : decidingRule rules cell = some a := by
  have first : First ruleOrder (fun r => covers cell r = true) (rules.filter (·.active)) a :=
    ⟨List.mem_filter.mpr ⟨h.mem, h.holds.1⟩, h.holds.2, fun b mem holds =>
      h.least b (List.mem_filter.mp mem).1 ⟨(List.mem_filter.mp mem).2, holds⟩⟩
  refine first.find? ruleOrder fun b mem holds before => ?_
  obtain ⟨mem, active⟩ := List.mem_filter.mp mem
  have after := h.least b mem ⟨active, holds⟩
  refine distinct.eq_of_key mem h.mem ?_
  rcases before with less | ⟨same, le⟩
  · rcases after with more | ⟨same, _⟩ <;> omega
  · rcases after with more | ⟨_, ge⟩
    · omega
    · exact le_antisymm le ge

/-- The rule that decides for a clone is the copy of a leading rule. -/
theorem decidingRule_copies {n : Nat} (valid : ∀ r ∈ rules, ValidSelectors r)
    {c : AuthorizationPolicyRule}
    (h : decidingRule (copyRules uuid version n (cloneOrder rules)) cell = some c) :
    ∃ i r, (cloneOrder rules)[i]? = some r ∧ c = copyRule uuid version (n + i) r ∧
      LeadsCopies rules cell r := by
  obtain ⟨mem, ⟨_, holds⟩, least⟩ := decidingRule_active h
  obtain ⟨i, r, found, rfl⟩ := mem_copyRules.mp mem
  have here : r ∈ rules := mem_cloneOrder.mp (List.mem_of_getElem? found)
  refine ⟨i, r, found, rfl, here, by rw [← covers_copyRule (valid r here)]; exact holds, fun q memQ hold => ?_⟩
  obtain ⟨j, foundQ⟩ := List.getElem?_of_mem (mem_cloneOrder.mpr memQ)
  have order := least (copyRule uuid version (n + j) q) (mem_copyRules.mpr ⟨j, q, foundQ, rfl⟩)
    ⟨rfl, by rw [covers_copyRule (valid q memQ)]; exact hold⟩
  rcases order with less | ⟨same, _⟩
  · exact le_of_lt less
  · exact le_of_eq same.symm

theorem decidingRule_copies_eq_none {n : Nat} (valid : ∀ r ∈ rules, ValidSelectors r) :
    decidingRule (copyRules uuid version n (cloneOrder rules)) cell = none ↔
      ∀ r ∈ rules, covers cell (revived r) = false := by
  rw [decidingRule_eq_none]
  constructor
  · intro h r here
    obtain ⟨i, found⟩ := List.getElem?_of_mem (mem_cloneOrder.mpr here)
    have miss := h _ (mem_copyRules.mpr ⟨i, r, found, rfl⟩)
    rw [covers_copyRule (valid r here)] at miss
    exact Bool.eq_false_iff.mpr fun holds => miss ⟨rfl, holds⟩
  · rintro h c memC ⟨_, holds⟩
    obtain ⟨i, r, found, rfl⟩ := mem_copyRules.mp memC
    have here := mem_cloneOrder.mp (List.mem_of_getElem? found)
    rw [covers_copyRule (valid r here), h r here] at holds
    cases holds

/-! ## Names that put one copy first -/

/-- Names of which the `m`-th sorts before all others; `length` exceeds every taken name. -/
def favouring (length m : Nat) (n : Nat) : String :=
  if n = m then String.ofList (List.replicate (length + 1) '0')
  else String.ofList (List.replicate (length + 2 + n) '1')

theorem favouring_length (length m n : Nat) : length < (favouring length m n).length := by
  unfold favouring
  split
  · simp
  · simp only [String.length_ofList, List.length_replicate]
    omega

theorem favouring_injective (length m : Nat) : (favouring length m).Injective := by
  intro a b same
  unfold favouring at same
  split at same <;> split at same
  · simp_all
  all_goals
    have lengths := congrArg String.length same
    simp only [String.length_ofList, List.length_replicate] at lengths
    omega

theorem favouring_first {length m n : Nat} (ne : n ≠ m) :
    ¬("rule-" ++ favouring length m n ≤ "rule-" ++ favouring length m m) := by
  rw [not_le, String.lt_iff_toList_lt, String.toList_append, String.toList_append]
  refine List.append_left_lt ?_
  simp only [favouring, if_true, ne, if_false, String.toList_ofList, List.replicate_succ,
    show length + 2 + n = (length + 1 + n) + 1 by omega]
  exact List.Lex.rel (by decide)

theorem favouring_fresh (s : PolicyStore) (m : Nat) : ∃ length, FreshNames (favouring length m) s := by
  let taken := s.policies.map (·.policyVersionId) ++ s.rules.map (·.ruleId)
  have short : ∀ name ∈ taken, name.length ≤ (taken.map String.length).sum := fun name mem =>
    List.single_le_sum (fun _ _ => Nat.zero_le _) _ (List.mem_map_of_mem mem)
  have long : ∀ (start : String) n name, name ∈ taken →
      name ≠ start ++ favouring (taken.map String.length).sum m n := by
    intro start n name mem same
    have := short name mem
    have := favouring_length (taken.map String.length).sum m n
    rw [same, String.length_append] at *
    omega
  refine ⟨(taken.map String.length).sum, favouring_injective _ m, fun n p mem => ?_, fun n r mem => ?_⟩
  · exact long _ n _ (List.mem_append_left _ (List.mem_map_of_mem mem))
  · exact long _ n _ (List.mem_append_right _ (List.mem_map_of_mem mem))

/-! ## The decision of a clone -/

/-- Every clone of the version decides the cell as the version does. -/
def ClonePreserves (s : PolicyStore) (version : String) (cell : Cell) : Prop :=
  ∀ uuid createdBy source cloned clone, s.policy? version = some source →
    cloneAuthorizationPolicyVersion uuid s version createdBy = .ok (cloned, clone) →
    (resolveAuthorizationExpectation clone (cloned.rulesOf clone.policyVersionId) cell).map
        (·.expectedDecision) =
      (resolveAuthorizationExpectation source (s.rulesOf version) cell).map (·.expectedDecision)

/-- The rules that may decide the cell for a clone agree with what decides it for the source: its
first active rule, or its default. -/
structure CloneAgrees (source : AuthorizationPolicy) (rules : List AuthorizationPolicyRule)
    (cell : Cell) : Prop where
  decided : ∀ b, LeadsCopies rules cell b → ∀ a, LeadsActive rules cell a →
    b.expectedDecision = a.expectedDecision
  undecided : ∀ b, LeadsCopies rules cell b → (∀ a, ¬LeadsActive rules cell a) →
    b.expectedDecision = fallbackDecision source cell
  lost : (∀ r ∈ rules, covers cell (revived r) = false) → ∀ a, LeadsActive rules cell a →
    a.expectedDecision = fallbackDecision source cell

theorem leadsActive_of_none
    (h : decidingRule rules cell = none) (a : AuthorizationPolicyRule) : ¬LeadsActive rules cell a :=
  fun leads => decidingRule_eq_none.mp h a leads.mem leads.holds

theorem rulesOf_distinct (s : PolicyStore) (version : String) :
    Distinct (·.ruleId) (s.rulesOf version) :=
  List.Nodup.sublist (List.Sublist.map _ List.filter_sublist) s.uniqueRules

/-- Both resolutions of a clone, as the rules that decide. -/
theorem clone_decisions {cloned : PolicyStore} {createdBy : String}
    {clone : AuthorizationPolicy} (found : s.policy? version = some source)
    (h : cloneAuthorizationPolicyVersion uuid s version createdBy = .ok (cloned, clone)) (cell : Cell) :
    (resolveAuthorizationExpectation clone (cloned.rulesOf clone.policyVersionId) cell).map
        (·.expectedDecision) =
      .ok ((decidingRule (copyRules uuid clone.policyVersionId (firstRuleName s source)
        (cloneOrder (s.rulesOf version))) cell).elim (fallbackDecision source cell)
          (·.expectedDecision)) ∧
    (resolveAuthorizationExpectation source (s.rulesOf version) cell).map (·.expectedDecision) =
      .ok ((decidingRule (s.rulesOf version) cell).elim (fallbackDecision source cell)
        (·.expectedDecision)) := by
  obtain ⟨clonable, fallback, rules⟩ := clone_spec found h
  have isVersion : source.policyVersionId = version := lookup_key found
  have valid := clonable.selectors
  rw [isVersion] at valid rules
  refine ⟨?_, resolve_valid valid source cell⟩
  rw [rules, resolve_valid ?_, fallback]
  intro c mem
  obtain ⟨i, r, here, rfl⟩ := mem_copyRules.mp mem
  exact copyRule_valid (valid r (mem_cloneOrder.mp (List.mem_of_getElem? here))) ..

/-- **Cloning.** A version that can be cloned keeps its decision of a cell, whatever names are
drawn, exactly where the rules that may decide it for the clone agree with its own. -/
theorem clone_preserves_iff (s : PolicyStore) (version : String) (cell : Cell) :
    ClonePreserves s version cell ↔ ∀ source, s.policy? version = some source → Clonable s source →
      CloneAgrees source (s.rulesOf version) cell := by
  constructor
  · intro preserves source found clonable
    have isVersion : source.policyVersionId = version := lookup_key found
    have valid := clonable.selectors
    rw [isVersion] at valid
    -- with names that favour `b`, its copy decides for the clone
    have favoured : ∀ b, LeadsCopies (s.rulesOf version) cell b →
        b.expectedDecision = (decidingRule (s.rulesOf version) cell).elim
          (fallbackDecision source cell) (·.expectedDecision) := by
      intro b leads
      obtain ⟨i, foundB⟩ := List.getElem?_of_mem (mem_cloneOrder.mpr leads.mem)
      obtain ⟨length, fresh⟩ := favouring_fresh s (firstRuleName s source + i)
      obtain ⟨cloned, clone, cloning⟩ := clone_succeeds found clonable fresh ""
      have same := preserves _ _ source cloned clone found cloning
      obtain ⟨copied, own⟩ := clone_decisions found cloning cell
      rw [copied, own, Except.ok.injEq] at same
      rw [← same]
      cases decides : decidingRule (copyRules (favouring length (firstRuleName s source + i))
        clone.policyVersionId (firstRuleName s source) (cloneOrder (s.rulesOf version))) cell with
      | none =>
        have miss := decidingRule_copies_eq_none valid |>.mp decides b leads.mem
        rw [leads.holds] at miss
        cases miss
      | some c =>
        obtain ⟨j, r, foundR, eq, leadsR⟩ := decidingRule_copies valid decides
        have before := (decidingRule_active decides).least _ (mem_copyRules.mpr ⟨i, b, foundB, rfl⟩)
          ⟨rfl, by rw [covers_copyRule (valid b leads.mem)]; exact leads.holds⟩
        have ids : i = j := by
          by_contra ne
          subst eq
          rcases before with less | ⟨_, le⟩
          · exact absurd (leads.least r leadsR.mem leadsR.holds) (not_le.mpr less)
          · exact favouring_first (by omega) le
        subst ids
        rw [foundB] at foundR
        cases foundR
        rw [eq]
        rfl
    refine ⟨fun b leads a own => ?_, fun b leads none_ => ?_, fun lost a own => ?_⟩
    · rw [favoured b leads, decidingRule_of_leads (rulesOf_distinct s version) own]
      rfl
    · cases decides : decidingRule (s.rulesOf version) cell with
      | none => rw [favoured b leads, decides]; rfl
      | some a => exact absurd (decidingRule_active decides) (none_ a)
    · obtain ⟨length, fresh⟩ := favouring_fresh s 0
      obtain ⟨cloned, clone, cloning⟩ := clone_succeeds found clonable fresh ""
      have same := preserves _ _ source cloned clone found cloning
      obtain ⟨copied, decided⟩ := clone_decisions found cloning cell
      rw [copied, decided, (decidingRule_copies_eq_none valid).mpr lost,
        decidingRule_of_leads (rulesOf_distinct s version) own, Except.ok.injEq] at same
      exact same.symm
  · intro agrees uuid createdBy source cloned clone found cloning
    obtain ⟨clonable, _⟩ := clone_spec found cloning
    have valid := clonable.selectors
    rw [show source.policyVersionId = version from lookup_key found] at valid
    obtain ⟨decided, undecided, lost⟩ := agrees source found clonable
    obtain ⟨copied, own⟩ := clone_decisions found cloning cell
    rw [copied, own, Except.ok.injEq]
    cases copies : decidingRule (copyRules uuid clone.policyVersionId (firstRuleName s source)
      (cloneOrder (s.rulesOf version))) cell with
    | none =>
      have gone := decidingRule_copies_eq_none valid |>.mp copies
      cases decides : decidingRule (s.rulesOf version) cell with
      | none => rfl
      | some a => exact (lost gone a (decidingRule_active decides)).symm
    | some c =>
      obtain ⟨_, b, _, rfl, leads⟩ := decidingRule_copies valid copies
      cases decides : decidingRule (s.rulesOf version) cell with
      | none => exact undecided b leads (leadsActive_of_none decides)
      | some a => exact decided b leads a (decidingRule_active decides)

/-- A policy with two rules of one priority, an allowing and a denying one, that cover every cell. -/
def tiedStore : PolicyStore where
  policies := [{
    policyKey := "policy-1", policyVersionId := "policy-version-1", projectId := "p", envId := "e",
    name := "tied", principalIds := ["owner", "subject"], relationIds := ["relation"] }]
  rules := [
    { ruleId := "rule-a", policyVersionId := "policy-version-1", expectedDecision := .allow },
    { ruleId := "rule-b", policyVersionId := "policy-version-1", expectedDecision := .deny }]
  uniqueVersions := by decide
  uniqueRules := by decide
  owned := by decide

def tiedCell : Cell := ⟨{ principalId := "owner" }, { principalId := "subject" }, "orders", "read"⟩

/-- Names that fall in the order they are drawn. -/
def fallingNames (n : Nat) : String := if n = 0 then "f0" else if n = 1 then "e1" else "d2"

/-- The clone of the tied policy may deny what the policy allows. -/
theorem clone_not_preserves : ¬ ∀ s version cell, ClonePreserves s version cell := by
  intro preserves
  let decisionOf (s : PolicyStore) (policy : AuthorizationPolicy) (version : String) :=
    (resolveAuthorizationExpectation policy (s.rulesOf version) tiedCell).map (·.expectedDecision)
  have flips : ((cloneAuthorizationPolicyVersion fallingNames tiedStore "policy-version-1" "").toOption.any
      fun p => (tiedStore.policy? "policy-version-1").any fun source =>
        (decisionOf p.1 p.2 p.2.policyVersionId).toOption == some .deny &&
        (decisionOf tiedStore source "policy-version-1").toOption == some .allow) = true := by
    decide +kernel
  simp only [Option.any_eq_true, Bool.and_eq_true, beq_iff_eq, Prod.exists] at flips
  obtain ⟨cloned, clone, cloning, source, found, denied, allowed⟩ := flips
  have same := preserves tiedStore "policy-version-1" tiedCell fallingNames "" source cloned clone found
    (toOption_eq_some.mp cloning)
  rw [show decisionOf cloned clone clone.policyVersionId = _ from same] at denied
  exact absurd (denied.symm.trans allowed) (by decide)

end ApiManger.Authorization
