import Mathlib.Algebra.BigOperators.Group.List.Lemmas
import Mathlib.Tactic.Linarith
import ApiManger.Rules.Engine

/-!
# What an evaluation reports

A combination qualifies when it is in the scope of the rule and every predicate matches it. The report of an
evaluation has one match for each combination that qualifies, counts the others by the reason they are rejected
for, and does not depend on the order in which the facts are listed; with more qualifying combinations than the
rule allows there is no report.
-/

namespace ApiManger.Rules
open Python

section
variable {P O : Type}

/-! ## The purpose of the engine -/

def combinations (rule : RuleSpec) (facts : Mapping (List (Fact P))) : List (List (Fact P)) :=
  product (rule.inputs.map fun name => (facts.get? name).getD [])

/-- What the predicate of a call answers in a context. -/
def OfflineRuleEngine.resultOf (engine : OfflineRuleEngine P O) (context : Context P) (call : PredicateCall) :
    Option PredicateResult :=
  (engine.predicates call.name).bind fun definition =>
    match definition.evaluate context call.args with
    | .ok result => result
    | .error _ => none

def inScope (rule : RuleSpec) (combination : List (Fact P)) : Bool :=
  match scopeRejection rule.scope (contextOf rule combination) with
  | .ok reason => reason == ""
  | .error _ => false

/-- The combination passes the scope and all predicates. -/
def OfflineRuleEngine.qualifies (engine : OfflineRuleEngine P O) (rule : RuleSpec) (combination : List (Fact P)) :
    Bool :=
  inScope rule combination &&
    rule.predicates.all fun call => (engine.resultOf (contextOf rule combination) call).any (·.matched)

def OfflineRuleEngine.featureValue (engine : OfflineRuleEngine P O) (context : Context P) (feature : ScoreFeature) :
    ℚ := ((engine.resultOf context feature.predicate).map (·.value)).getD 0

/-- The base and the weighted features. -/
def OfflineRuleEngine.weightedSum (engine : OfflineRuleEngine P O) (rule : RuleSpec) (context : Context P) : ℚ :=
  rule.scoreBase.value +
    (rule.scoreFeatures.map fun feature => engine.featureValue context feature * feature.weight.value).sum

/-- The references of a match to the facts of a combination. -/
def refsOf (rule : RuleSpec) (combination : List (Fact P)) : List (String × String) :=
  rule.inputs.map fun name => (name, (((contextOf rule combination).get? name).map (·.factId)).getD "")

/-- A match for a combination. -/
structure OfflineRuleEngine.IsMatch (engine : OfflineRuleEngine P O) (rule : RuleSpec) (combination : List (Fact P))
    (m : RuleMatch O) : Prop where
  refs : m.factRefs = refsOf rule combination
  nonneg : 0 ≤ m.score
  le_one : m.score ≤ 1
  score : m.score = round6 (clampScore (engine.weightedSum rule (contextOf rule combination)))

/-- The facts of the required inputs are of the required types. -/
def Fits (rule : RuleSpec) (facts : Mapping (List (Fact P))) (required : List (String × FactType)) : Prop :=
  ∀ e ∈ required, e.1 ∈ rule.inputs ∧ ∀ f ∈ (facts.get? e.1).getD [], f.isA e.2

/-- The predicate of a call accepts its arguments and answers for every combination, with a value in [0, 1]. -/
structure OfflineRuleEngine.Answers (engine : OfflineRuleEngine P O) (rule : RuleSpec)
    (facts : Mapping (List (Fact P))) (call : PredicateCall) (definition : PredicateDefinition P) : Prop where
  registered : engine.predicates call.name = some definition
  accepts : definition.validateArgs call.args = .ok ()
  fits : Fits rule facts definition.requiredInputs
  answers : ∀ combination ∈ combinations rule facts, ∃ result,
    definition.evaluate (contextOf rule combination) call.args = .ok (some result) ∧
      0 ≤ result.value ∧ result.value ≤ 1

/-- The rule is one that `from_mapping` makes, the facts are for its inputs, and the registries are total: every
predicate it calls and its output adapter answer for every combination of the facts. -/
structure OfflineRuleEngine.Total (engine : OfflineRuleEngine P O) (rule : RuleSpec)
    (facts : Mapping (List (Fact P))) : Prop where
  network : rule.safety.network = "forbidden"
  mutation : rule.safety.mutation = "forbidden"
  budget : 1 ≤ rule.safety.maxMatches
  relation : rule.scope.principalRelation = "any" ∨
    (relationField? (P := P) rule.scope.principalRelation).isSome
  keys : ∀ name, name ∈ facts.keys ↔ name ∈ rule.inputs
  predicates : ∀ call ∈ rule.predicates, ∃ definition, engine.Answers rule facts call definition
  features : ∀ feature ∈ rule.scoreFeatures, ∃ definition, engine.Answers rule facts feature.predicate definition
  output : ∃ output, engine.outputs rule.emit.adapter = some output ∧ output.validateArgs rule.emit.args = .ok () ∧
    Fits rule facts output.requiredInputs ∧
    ∀ combination ∈ combinations rule facts, ∀ score reasons contributions, ∃ out,
      output.emit (contextOf rule combination) rule score reasons contributions = .ok out

/-- The report is the one the rule asks for. -/
structure OfflineRuleEngine.Exact (engine : OfflineRuleEngine P O) (rule : RuleSpec)
    (facts : Mapping (List (Fact P))) (report : EvaluationReport O) : Prop where
  counted : report.evaluatedCombinations =
    (rule.inputs.map fun name => ((facts.get? name).getD []).length).prod
  balanced : report.ruleMatches.length + (report.rejectionCounts.map (·.2)).sum = report.evaluatedCombinations
  complete : ∃ found, found.Perm ((combinations rule facts).filter (engine.qualifies rule)) ∧ found.Nodup ∧
    List.Forall₂ (engine.IsMatch rule) found report.ruleMatches
  apart : rule.inputs.Nodup → (report.ruleMatches.map (·.factRefs)).Nodup

/-- The same facts for each input, in another order. -/
def Permuted (facts others : Mapping (List (Fact P))) : Prop :=
  ∀ name, Option.Rel List.Perm (facts.get? name) (others.get? name)

/-- No two facts of an input have one id. -/
def DistinctIds (facts : Mapping (List (Fact P))) : Prop :=
  ∀ e ∈ facts.items, (e.2.map (·.factId)).Nodup

/-! ## Scores -/

theorem clampScore_bounds (score : ℚ) : 0 ≤ clampScore score ∧ clampScore score ≤ 1 := by
  constructor
  · exact le_max_left _ _
  · exact max_le (by norm_num) (min_le_left _ _)

theorem roundHalfEven_bounds {x : ℚ} {n : ℤ} (low : 0 ≤ x) (high : x ≤ n) :
    0 ≤ roundHalfEven x ∧ roundHalfEven x ≤ n := by
  have floor_nonneg : 0 ≤ ⌊x⌋ := Int.floor_nonneg.mpr low
  have floor_le : (⌊x⌋ : ℚ) ≤ x := Int.floor_le x
  have below : ⌊x⌋ ≤ n := by
    have := floor_le.trans high
    exact_mod_cast this
  -- The floor is raised only where `x` is above it, hence where it is below `n`.
  have raised (above : ⌊x⌋ ≠ x) : ⌊x⌋ + 1 ≤ n := by
    have strict : (⌊x⌋ : ℚ) < n := (lt_of_le_of_ne floor_le above).trans_le high
    exact_mod_cast strict
  simp only [roundHalfEven]
  split_ifs with under beyond even
  · exact ⟨floor_nonneg, below⟩
  · refine ⟨by omega, raised fun same => ?_⟩
    rw [same] at beyond
    norm_num at beyond
  · exact ⟨floor_nonneg, below⟩
  · refine ⟨by omega, raised fun same => ?_⟩
    rw [same] at under
    norm_num at under

theorem round6_bounds {x : ℚ} (low : 0 ≤ x) (high : x ≤ 1) : 0 ≤ round6 x ∧ round6 x ≤ 1 := by
  have scaled : x * 10 ^ 6 ≤ ((10 ^ 6 : ℤ) : ℚ) := by
    push_cast
    nlinarith
  obtain ⟨nonneg, le⟩ := roundHalfEven_bounds (mul_nonneg low (by positivity)) scaled
  have le' : (roundHalfEven (x * 10 ^ 6) : ℚ) ≤ 10 ^ 6 := by exact_mod_cast le
  refine ⟨div_nonneg (by exact_mod_cast nonneg) (by positivity), ?_⟩
  exact (div_le_one (by positivity)).mpr le'

/-! ## Contexts -/

theorem ofItems_get? {ν : Type} {items : List (String × ν)} {key : String} (listed : key ∈ items.map (·.1)) :
    ∃ value, (Mapping.ofItems items).get? key = some value ∧ (key, value) ∈ items := by
  suffices found : ∃ value, (Mapping.ofItems items).get? key = some value by
    obtain ⟨value, found⟩ := found
    exact ⟨value, found, Mapping.mem_ofItems (Mapping.mem_iff.mpr found)⟩
  induction items using List.reverseRecOn with
  | nil => cases listed
  | append_singleton items last ih =>
    have split : (Mapping.ofItems (items ++ [last])).get? key =
        if last.1 = key then some last.2 else (Mapping.ofItems items).get? key := by
      rw [Mapping.ofItems, List.foldl_append]
      exact Mapping.get?_set _ _ _ _
    rw [split]
    split_ifs with here
    · exact ⟨_, rfl⟩
    · refine ih ?_
      simp only [List.map_append, List.map_cons, List.map_nil, List.mem_append, List.mem_singleton] at listed
      rcases listed with earlier | same
      · exact earlier
      · exact absurd same.symm here

variable {facts : Mapping (List (Fact P))} {combination : List (Fact P)}

theorem length_of_mem {rule : RuleSpec}
    (inside : combination ∈ combinations rule facts) : combination.length = rule.inputs.length := by
  have taken := (mem_product.mp inside).length_eq
  rwa [List.length_map] at taken

/-- The context of a combination has a fact of each input. -/
theorem contextOf_get? {rule : RuleSpec}
    (inside : combination ∈ combinations rule facts) {name : String} (input : name ∈ rule.inputs) :
    ∃ f, (contextOf rule combination).get? name = some f ∧ f ∈ (facts.get? name).getD [] := by
  have named : (rule.inputs.zip combination).map (·.1) = rule.inputs :=
    List.map_fst_zip (length_of_mem inside).ge
  obtain ⟨f, found, pair⟩ := ofItems_get? (by rw [named]; exact input)
  refine ⟨f, found, ?_⟩
  have taken := List.forall₂_map_right_iff.mp (mem_product.mp inside)
  exact (List.forall₂_iff_zip.mp taken.flip).2 pair

theorem validateContextTypes_ok {rule : RuleSpec}
    (inside : combination ∈ combinations rule facts) {definitions : List (String × List (String × FactType))}
    (fits : ∀ d ∈ definitions, Fits rule facts d.2) :
    validateContextTypes (contextOf rule combination) definitions = .ok () := by
  have none_wrong : definitions.findSome? (wrongInput? (contextOf rule combination)) = none := by
    rw [List.findSome?_eq_none_iff]
    intro d listed
    rw [wrongInput?, List.findSome?_eq_none_iff]
    intro e required
    obtain ⟨input, typed⟩ := fits d listed e required
    obtain ⟨f, found, member⟩ := contextOf_get? inside input
    simp only [found, typed f member, if_true]
  rw [validateContextTypes, none_wrong]

/-! ## Predicates and features -/

section
variable {engine : OfflineRuleEngine P O} {rule : RuleSpec} {facts : Mapping (List (Fact P))}

theorem validateRequiredInputs_ok {required : List (String × FactType)} (fits : Fits rule facts required)
    (name : String) : validateRequiredInputs rule required name = .ok () := by
  have none_missing : (sortedMissing (required.map (·.1)) rule.inputs).isEmpty = true := by
    refine sortedMissing_isEmpty.mpr fun x listed => ?_
    obtain ⟨e, inside, rfl⟩ := List.mem_map.mp listed
    exact (fits e inside).1
  rw [validateRequiredInputs, if_pos none_missing]

theorem OfflineRuleEngine.Answers.resolve {call : PredicateCall} {definition : PredicateDefinition P}
    (answers : engine.Answers rule facts call definition) : engine.resolvePredicate rule call = .ok definition := by
  simp only [OfflineRuleEngine.resolvePredicate, answers.registered, answers.accepts,
    validateRequiredInputs_ok answers.fits]
  rfl

variable {combination : List (Fact P)}

theorem OfflineRuleEngine.Answers.resultOf {call : PredicateCall} {definition : PredicateDefinition P}
    (answers : engine.Answers rule facts call definition)
    (inside : combination ∈ combinations rule facts) : ∃ result,
      definition.evaluate (contextOf rule combination) call.args = .ok (some result) ∧
      engine.resultOf (contextOf rule combination) call = some result ∧ 0 ≤ result.value ∧ result.value ≤ 1 := by
  obtain ⟨result, evaluated, low, high⟩ := answers.answers combination inside
  refine ⟨result, evaluated, ?_, low, high⟩
  rw [OfflineRuleEngine.resultOf, answers.registered, Option.bind_some, evaluated]

/-- The loop over the predicates does not reject when all of them match. -/
theorem runPredicates_ok (inside : combination ∈ combinations rule facts)
    {predicates : List (PredicateCall × PredicateDefinition P)}
    (answers : ∀ p ∈ predicates, engine.Answers rule facts p.1 p.2) (reasons : List String) :
    ∃ judged, runPredicates (contextOf rule combination) predicates reasons = .ok judged ∧
      judged.isRight = predicates.all fun p =>
        (engine.resultOf (contextOf rule combination) p.1).any (·.matched) := by
  induction predicates generalizing reasons with
  | nil => exact ⟨_, rfl, rfl⟩
  | cons p rest ih =>
    obtain ⟨result, evaluated, found, _⟩ := (answers p List.mem_cons_self).resultOf inside
    have ih := ih fun q listed => answers q (List.mem_cons_of_mem _ listed)
    rw [runPredicates, evaluated, ok_bind, List.all_cons, found]
    simp only [Option.any_some]
    cases result.matched with
    | false => exact ⟨_, rfl, rfl⟩
    | true => exact ih _

/-- The loop over the features adds the weighted values. -/
theorem scoreFeatures_ok (inside : combination ∈ combinations rule facts)
    {features : List (ScoreFeature × PredicateDefinition P)}
    (answers : ∀ f ∈ features, engine.Answers rule facts f.1.predicate f.2) (s : Scored) :
    ∃ scored, features.foldlM (scoreFeature (contextOf rule combination)) s = .ok scored ∧
      scored.score = s.score + (features.map fun f =>
        engine.featureValue (contextOf rule combination) f.1 * f.1.weight.value).sum := by
  induction features generalizing s with
  | nil => exact ⟨s, rfl, by simp⟩
  | cons f rest ih =>
    obtain ⟨result, evaluated, found, low, high⟩ := (answers f List.mem_cons_self).resultOf inside
    have ih := ih fun g listed => answers g (List.mem_cons_of_mem _ listed)
    have turn : ∃ next, scoreFeature (contextOf rule combination) s f = .ok next ∧
        next.score = s.score + result.value * f.1.weight.value := by
      simp only [scoreFeature, evaluated, ok_bind, low, high, and_self, if_true]
      exact ⟨_, rfl, rfl⟩
    obtain ⟨next, turn, sum⟩ := turn
    obtain ⟨scored, folded, total⟩ := ih next
    refine ⟨scored, ?_, ?_⟩
    · rw [List.foldlM_cons, turn, ok_bind, folded]
    · have value : engine.featureValue (contextOf rule combination) f.1 = result.value := by
        rw [OfflineRuleEngine.featureValue, found]
        rfl
      rw [total, sum, List.map_cons, List.sum_cons, value]
      ring

end

/-! ## One combination -/

/-- What a combination is judged. -/
inductive OfflineRuleEngine.Verdict (engine : OfflineRuleEngine P O) (rule : RuleSpec) (combination : List (Fact P)) :
    String ⊕ RuleMatch O → Prop where
  | rejected (reason : String) (fails : engine.qualifies rule combination = false) :
      engine.Verdict rule combination (.inl reason)
  | found (m : RuleMatch O) (passes : engine.qualifies rule combination = true)
      (isMatch : engine.IsMatch rule combination m) : engine.Verdict rule combination (.inr m)

/-- The definitions are those of the calls of the rule. -/
structure OfflineRuleEngine.Resolves (engine : OfflineRuleEngine P O) (rule : RuleSpec)
    (facts : Mapping (List (Fact P))) (r : Resolved P O) : Prop where
  relation : rule.scope.principalRelation = "any" ∨
    (relationField? (P := P) rule.scope.principalRelation).isSome
  calls : r.predicates.map (·.1) = rule.predicates
  predicates : ∀ p ∈ r.predicates, engine.Answers rule facts p.1 p.2
  asked : r.features.map (·.1) = rule.scoreFeatures
  features : ∀ f ∈ r.features, engine.Answers rule facts f.1.predicate f.2
  fits : Fits rule facts r.output.requiredInputs
  emits : ∀ combination ∈ combinations rule facts, ∀ score reasons contributions, ∃ out,
    r.output.emit (contextOf rule combination) rule score reasons contributions = .ok out

theorem scopeRejection_ok {scope : RuleScope}
    (relation : scope.principalRelation = "any" ∨ (relationField? (P := P) scope.principalRelation).isSome)
    (context : Context P) : ∃ reason, scopeRejection scope context = .ok reason := by
  simp only [scopeRejection]
  split_ifs with project environment any
  · exact ⟨_, rfl⟩
  · exact ⟨_, rfl⟩
  · exact ⟨_, rfl⟩
  · obtain ⟨field, found⟩ := Option.isSome_iff_exists.mp (relation.resolve_left any)
    simp only [found]
    split_ifs <;> exact ⟨_, rfl⟩

section
variable {engine : OfflineRuleEngine P O} {rule : RuleSpec} {facts : Mapping (List (Fact P))} {r : Resolved P O}

/-- Every definition has the inputs it requires. -/
theorem OfflineRuleEngine.Resolves.definitions_fit (resolves : engine.Resolves rule facts r) :
    ∀ d ∈ r.definitions, Fits rule facts d.2 := by
  intro d listed
  simp only [Resolved.definitions, List.mem_append, List.mem_map, List.mem_singleton] at listed
  rcases listed with (⟨p, inside, rfl⟩ | ⟨f, inside, rfl⟩) | rfl
  · exact (resolves.predicates p inside).fits
  · exact (resolves.features f inside).fits
  · exact resolves.fits

/-- A combination that passed has its match. -/
theorem matchOf_ok (resolves : engine.Resolves rule facts r) (sha256 : RuleSpec → String)
    {combination : List (Fact P)} (inside : combination ∈ combinations rule facts) (reasons : List String) :
    ∃ m, matchOf sha256 rule r (contextOf rule combination) reasons = .ok m ∧ engine.IsMatch rule combination m := by
  obtain ⟨scored, folded, sum⟩ := scoreFeatures_ok inside resolves.features
    { score := rule.scoreBase.value, reasons := reasons }
  obtain ⟨out, emitted⟩ := resolves.emits combination inside (round6 (clampScore scored.score))
    (firstOccurrences scored.reasons) scored.contributions
  have weighted : scored.score = engine.weightedSum rule (contextOf rule combination) := by
    rw [sum, OfflineRuleEngine.weightedSum, ← resolves.asked, List.map_map]
    rfl
  obtain ⟨low, high⟩ := clampScore_bounds scored.score
  obtain ⟨nonneg, le_one⟩ := round6_bounds low high
  simp only [matchOf, folded, ok_bind, emitted]
  exact ⟨_, rfl, { refs := rfl, nonneg, le_one, score := by rw [weighted] }⟩

theorem judgeCombination_ok (resolves : engine.Resolves rule facts r) (sha256 : RuleSpec → String)
    {combination : List (Fact P)} (inside : combination ∈ combinations rule facts) :
    ∃ judged, judgeCombination sha256 rule r combination = .ok judged ∧ engine.Verdict rule combination judged := by
  obtain ⟨reason, ruled⟩ := scopeRejection_ok resolves.relation (contextOf rule combination)
  simp only [judgeCombination, validateContextTypes_ok inside resolves.definitions_fit, ok_bind, ruled]
  by_cases out : reason = ""
  · obtain ⟨judged, ran, right⟩ := runPredicates_ok inside resolves.predicates []
    have qualifies : engine.qualifies rule combination = judged.isRight := by
      rw [OfflineRuleEngine.qualifies, inScope, ruled, right, ← resolves.calls, List.all_map]
      subst out
      rfl
    simp only [out, bne_self_eq_false, Bool.false_eq_true, if_false, ran, ok_bind]
    cases judged with
    | inl reason => exact ⟨_, rfl, .rejected reason qualifies⟩
    | inr reasons =>
      obtain ⟨m, made, isMatch⟩ := matchOf_ok resolves sha256 inside reasons
      simp only [made]
      exact ⟨_, rfl, .found m qualifies isMatch⟩
  · have fails : engine.qualifies rule combination = false := by
      rw [OfflineRuleEngine.qualifies, inScope, ruled]
      simp [out]
    simp only [bne_iff_ne, ne_eq, out, not_false_eq_true, if_true]
    exact ⟨_, rfl, .rejected reason fails⟩

end

/-! ## The loop -/

/-- The sum of the values of a dictionary. -/
def total (d : Mapping ℕ) : ℕ := (d.items.map (·.2)).sum

theorem sum_replaced {items : List (String × ℕ)} (distinct : (items.map (·.1)).Nodup) {key : String} {old : ℕ}
    (listed : (key, old) ∈ items) (value : ℕ) :
    ((items.map fun e => if e.1 == key then (e.1, value) else e).map (·.2)).sum + old =
      (items.map (·.2)).sum + value := by
  induction items with
  | nil => cases listed
  | cons e rest ih =>
    obtain ⟨absent, distinct⟩ := List.nodup_cons.mp distinct
    rcases List.mem_cons.mp listed with rfl | later
    · have kept : (rest.map fun e => if e.1 == key then (e.1, value) else e) = rest := by
        refine (List.map_congr_left fun f inside => ?_).trans (List.map_id rest)
        have other : f.1 ≠ key := fun same => absent (List.mem_map.mpr ⟨f, inside, same⟩)
        simp [other]
      simp only [List.map_cons, beq_self_eq_true, if_true, List.sum_cons, kept]
      omega
    · have other : e.1 ≠ key := fun same => absent (List.mem_map.mpr ⟨_, later, same.symm⟩)
      have ih := ih distinct later
      simp only [List.map_cons, beq_iff_eq, other, if_false, List.sum_cons]
      simp only [beq_iff_eq] at ih
      omega

/-- Counting a reason adds one to the sum. -/
theorem total_countReason (rejected : Mapping ℕ) (reason : String) :
    total (countReason rejected reason) = total rejected + 1 := by
  cases found : rejected.get? reason with
  | none =>
    have new : ∀ e ∈ rejected.items, e.1 ≠ reason := by
      rintro ⟨_, n⟩ inside rfl
      rw [Mapping.mem_iff.mp inside] at found
      cases found
    simp only [total, countReason, found, Option.getD_none, Mapping.set_new new, List.map_append, List.sum_append]
    rfl
  | some old =>
    have listed := Mapping.mem_iff.mpr found
    have present : rejected.items.any (·.1 == reason) = true :=
      List.any_eq_true.mpr ⟨_, listed, beq_iff_eq.mpr rfl⟩
    have replaced := sum_replaced rejected.distinct listed (old + 1)
    simp only [total, countReason, found, Option.getD_some, Mapping.set, Mapping.setItems, present, if_true]
    omega

section
variable {engine : OfflineRuleEngine P O} {rule : RuleSpec} {facts : Mapping (List (Fact P))} {r : Resolved P O}

/-- What the loop has after some of the combinations. -/
structure OfflineRuleEngine.Tallied (engine : OfflineRuleEngine P O) (rule : RuleSpec)
    (judged : List (List (Fact P))) (tally : Tally O) : Prop where
  evaluated : tally.evaluated = judged.length
  balanced : tally.ruleMatches.length + total tally.rejected = judged.length
  ruleMatches : List.Forall₂ (engine.IsMatch rule) (judged.filter (engine.qualifies rule)) tally.ruleMatches

/-- One round of the loop counts its combination, or exceeds the budget. -/
theorem tallyCombination_ok (resolves : engine.Resolves rule facts r) (sha256 : RuleSpec → String)
    {earlier : List (List (Fact P))} {combination : List (Fact P)} (inside : combination ∈ combinations rule facts)
    {tally : Tally O} (tallied : engine.Tallied rule earlier tally)
    (within : (tally.ruleMatches.length : ℤ) ≤ rule.safety.maxMatches) :
    if rule.safety.maxMatches < ((earlier ++ [combination]).filter (engine.qualifies rule)).length then
      tallyCombination sha256 rule r tally combination = .error .budget
    else ∃ next, tallyCombination sha256 rule r tally combination = .ok next ∧
      engine.Tallied rule (earlier ++ [combination]) next := by
  obtain ⟨judged, made, verdict⟩ := judgeCombination_ok resolves sha256 inside
  have counted := tallied.ruleMatches.length_eq
  have evaluated := tallied.evaluated
  have balanced := tallied.balanced
  cases verdict with
  | rejected reason fails =>
    have same : (earlier ++ [combination]).filter (engine.qualifies rule) =
        earlier.filter (engine.qualifies rule) := by
      simp [List.filter_append, fails]
    rw [same, if_neg (by omega)]
    simp only [tallyCombination, made, ok_bind]
    refine ⟨_, rfl, ?_, ?_, ?_⟩
    · simp [evaluated]
    · simp only [total_countReason, List.length_append, List.length_singleton]
      omega
    · rw [same]
      exact tallied.ruleMatches
  | found m passes isMatch =>
    have more : (earlier ++ [combination]).filter (engine.qualifies rule) =
        earlier.filter (engine.qualifies rule) ++ [combination] := by
      simp [List.filter_append, passes]
    simp only [tallyCombination, made, ok_bind, more, List.length_append, List.length_singleton, counted]
    split_ifs with beyond
    · rfl
    · refine ⟨_, rfl, ?_, ?_, ?_⟩
      · simp [evaluated]
      · simp only [List.length_append, List.length_singleton]
        omega
      · rw [more]
        exact List.rel_append tallied.ruleMatches (.cons isMatch .nil)

/-- The whole loop. -/
theorem foldlM_tallyCombination (resolves : engine.Resolves rule facts r) (sha256 : RuleSpec → String)
    {rest : List (List (Fact P))} (inside : ∀ c ∈ rest, c ∈ combinations rule facts)
    {earlier : List (List (Fact P))} {tally : Tally O} (tallied : engine.Tallied rule earlier tally)
    (within : (tally.ruleMatches.length : ℤ) ≤ rule.safety.maxMatches) :
    if rule.safety.maxMatches < ((earlier ++ rest).filter (engine.qualifies rule)).length then
      rest.foldlM (tallyCombination sha256 rule r) tally = .error .budget
    else ∃ last, rest.foldlM (tallyCombination sha256 rule r) tally = .ok last ∧
      engine.Tallied rule (earlier ++ rest) last := by
  induction rest generalizing earlier tally with
  | nil =>
    have counted := tallied.ruleMatches.length_eq
    rw [List.append_nil, if_neg (by omega)]
    exact ⟨tally, rfl, tallied⟩
  | cons c rest ih =>
    have turn := tallyCombination_ok resolves sha256 (inside c List.mem_cons_self) tallied within
    have shift : earlier ++ c :: rest = (earlier ++ [c]) ++ rest := by simp
    rw [shift, List.foldlM_cons]
    by_cases beyond : rule.safety.maxMatches < ((earlier ++ [c]).filter (engine.qualifies rule)).length
    · rw [if_pos beyond] at turn
      have still : rule.safety.maxMatches < (((earlier ++ [c]) ++ rest).filter (engine.qualifies rule)).length := by
        rw [List.filter_append, List.length_append]
        omega
      rw [if_pos still, turn]
      rfl
    · rw [if_neg beyond] at turn
      obtain ⟨next, made, tallied⟩ := turn
      have counted := tallied.ruleMatches.length_eq
      rw [made, ok_bind]
      exact ih (fun d listed => inside d (List.mem_cons_of_mem _ listed)) tallied (by omega)

end

/-! ## The report -/

theorem mem_keys {ν : Type} {d : Mapping ν} {key : String} : key ∈ d.keys ↔ (d.get? key).isSome = true := by
  rw [Option.isSome_iff_exists, Mapping.keys, List.mem_map]
  constructor
  · rintro ⟨e, inside, rfl⟩
    exact ⟨e.2, Mapping.mem_iff.mp inside⟩
  · rintro ⟨value, found⟩
    exact ⟨_, Mapping.mem_iff.mpr found, rfl⟩

/-- The facts of each input in the order of their ids. -/
def orderedFacts (rule : RuleSpec) (facts : Mapping (List (Fact P))) : List (List (Fact P)) :=
  rule.inputs.map fun name => sortFacts ((facts.get? name).getD [])

theorem product_orderedFacts (rule : RuleSpec) (facts : Mapping (List (Fact P))) :
    (product (orderedFacts rule facts)).Perm (combinations rule facts) := by
  refine product_perm ?_
  rw [orderedFacts, List.forall₂_map_left_iff, List.forall₂_map_right_iff, List.forall₂_same]
  exact fun name _ => List.perm_insertionSort _ _

section
variable {engine : OfflineRuleEngine P O} {rule : RuleSpec} {facts : Mapping (List (Fact P))}

theorem resolveAll_ok {α : Type} (call : α → PredicateCall) {xs : List α}
    (answers : ∀ x ∈ xs, ∃ definition, engine.Answers rule facts (call x) definition) :
    ∃ ys : List (α × PredicateDefinition P),
      (xs.mapM fun x => do
        let definition ← engine.resolvePredicate rule (call x)
        return (x, definition)) = .ok ys ∧
      ys.map (·.1) = xs ∧ ∀ p ∈ ys, engine.Answers rule facts (call p.1) p.2 := by
  induction xs with
  | nil => exact ⟨[], rfl, rfl, fun _ listed => nomatch listed⟩
  | cons x rest ih =>
    obtain ⟨definition, here⟩ := answers x List.mem_cons_self
    obtain ⟨ys, resolved, same, all⟩ := ih fun y listed => answers y (List.mem_cons_of_mem _ listed)
    refine ⟨(x, definition) :: ys, ?_, by rw [List.map_cons, same], ?_⟩
    · rw [List.mapM_cons, here.resolve, resolved]
      rfl
    · intro p listed
      rcases List.mem_cons.mp listed with rfl | later
      · exact here
      · exact all p later

/-- The evaluation of an enabled rule is the loop over all combinations. -/
theorem evaluate_eq (ready : engine.Total rule facts) (enabled : rule.enabled = true) :
    ∃ r, engine.Resolves rule facts r ∧ engine.evaluate rule facts =
      ((product (orderedFacts rule facts)).foldlM (tallyCombination engine.sha256 rule r) {}).map (reportOf rule) := by
  obtain ⟨predicates, called, calls, answers⟩ := resolveAll_ok id ready.predicates
  obtain ⟨features, scored, asked, values⟩ := resolveAll_ok ScoreFeature.predicate ready.features
  obtain ⟨output, registered, accepts, fits, emits⟩ := ready.output
  refine ⟨⟨predicates, features, output⟩, ⟨ready.relation, calls, answers, asked, values, fits, emits⟩, ?_⟩
  have resolved : engine.resolveOutput rule = .ok output := by
    simp only [OfflineRuleEngine.resolveOutput, registered, accepts, validateRequiredInputs_ok fits]
    rfl
  have known : (sortedMissing facts.keys rule.inputs).isEmpty = true :=
    sortedMissing_isEmpty.mpr fun name => (ready.keys name).mp
  have given : (sortedMissing rule.inputs facts.keys).isEmpty = true :=
    sortedMissing_isEmpty.mpr fun name => (ready.keys name).mpr
  simp only [id_eq] at called
  simp only [OfflineRuleEngine.evaluate, enabled, ready.network, ready.mutation, known, given, called, scored, resolved,
    ok_bind, bne_self_eq_false, Bool.or_self, Bool.and_self, Bool.not_true, Bool.false_eq_true, if_false]
  split_ifs with empty
  · -- Without combinations the report of the loop is the empty one.
    obtain ⟨fs, listed, none_given⟩ := List.any_eq_true.mp empty
    rw [List.isEmpty_iff.mp none_given] at listed
    have none_left : product (orderedFacts rule facts) = [] := product_eq_nil listed
    rw [none_left]
    rfl
  · change (do
      let tally ← (product (orderedFacts rule facts)).foldlM _ _
      return reportOf rule tally) = _
    cases (product (orderedFacts rule facts)).foldlM (tallyCombination engine.sha256 rule ⟨predicates, features, output⟩) {} <;>
      rfl

/-- The context of a combination answers with its facts. -/
theorem map_get?_contextOf (distinct : rule.inputs.Nodup) {combination : List (Fact P)}
    (inside : combination ∈ combinations rule facts) :
    (rule.inputs.map fun name => (contextOf rule combination).get? name) = combination.map some := by
  have same := length_of_mem inside
  have named : (rule.inputs.zip combination).map (·.1) = rule.inputs := List.map_fst_zip same.ge
  have items : (contextOf rule combination).items = rule.inputs.zip combination :=
    Mapping.ofItems_items (by rw [Collection.Distinct, named]; exact distinct)
  refine List.ext_getElem (by simp [same]) fun i left right => ?_
  rw [List.getElem_map, List.getElem_map]
  refine Mapping.mem_iff.mp ?_
  rw [items]
  have inputs : i < rule.inputs.length := by simpa using left
  have facts : i < combination.length := by simpa using right
  have bound : i < (rule.inputs.zip combination).length := by
    rw [List.length_zip]
    omega
  exact List.mem_iff_getElem.mpr ⟨i, bound, List.getElem_zip⟩

/-- Different combinations are referred to differently. -/
theorem refsOf_inj (distinct : rule.inputs.Nodup) (ids : DistinctIds facts) {c d : List (Fact P)}
    (hc : c ∈ combinations rule facts) (hd : d ∈ combinations rule facts) (same : refsOf rule c = refsOf rule d) :
    c = d := by
  have answers : (rule.inputs.map fun name => (contextOf rule c).get? name) =
      rule.inputs.map fun name => (contextOf rule d).get? name := by
    refine List.map_congr_left fun name input => ?_
    obtain ⟨f, foundF, memF⟩ := contextOf_get? hc input
    obtain ⟨g, foundG, memG⟩ := contextOf_get? hd input
    have refs := List.map_inj_left.mp same name input
    simp only [foundF, foundG, Option.map_some, Option.getD_some, Prod.mk.injEq, true_and] at refs
    cases given : facts.get? name with
    | none =>
      rw [given] at memF
      cases memF
    | some fs =>
      rw [given] at memF memG
      have apart := ids (name, fs) (Mapping.mem_iff.mpr given)
      rw [foundF, foundG, List.inj_on_of_nodup_map apart memF memG refs]
  rw [map_get?_contextOf distinct hc, map_get?_contextOf distinct hd] at answers
  exact List.map_injective_iff.mpr (Option.some_injective _) answers

end

section
variable {engine : OfflineRuleEngine P O} {rule : RuleSpec} {facts others : Mapping (List (Fact P))}

theorem combinations_nodup (ids : DistinctIds facts) : (combinations rule facts).Nodup := by
  refine product_nodup fun fs listed => ?_
  obtain ⟨name, _, rfl⟩ := List.mem_map.mp listed
  cases given : facts.get? name with
  | none => exact List.nodup_nil
  | some fs => exact List.Nodup.of_map _ (ids (name, fs) (Mapping.mem_iff.mpr given))

/-- The report of a loop within the budget is the one the rule asks for. -/
theorem reportOf_exact (ids : DistinctIds facts) {tally : Tally O}
    (tallied : engine.Tallied rule (product (orderedFacts rule facts)) tally) :
    engine.Exact rule facts (reportOf rule tally) := by
  have perm := product_orderedFacts rule facts
  have chosen := perm.filter (engine.qualifies rule)
  have nodup := (perm.nodup_iff.mpr (combinations_nodup ids)).filter (engine.qualifies rule)
  have counts : ((reportOf rule tally).rejectionCounts.map (·.2)).sum = total tally.rejected :=
    ((List.perm_insertionSort _ _).map _).sum_eq
  refine ⟨?_, ?_, ⟨_, chosen, nodup, tallied.ruleMatches⟩, ?_⟩
  · have size : (reportOf rule tally).evaluatedCombinations = (product (orderedFacts rule facts)).length :=
      tallied.evaluated
    rw [size, perm.length_eq, combinations, length_product, List.map_map]
    rfl
  · rw [counts]
    exact tallied.balanced.trans tallied.evaluated.symm
  · intro distinct
    have refs : (reportOf rule tally).ruleMatches.map (·.factRefs) =
        ((product (orderedFacts rule facts)).filter (engine.qualifies rule)).map (refsOf rule) := by
      rw [← List.forall₂_eq_eq_eq, List.forall₂_map_left_iff, List.forall₂_map_right_iff]
      exact tallied.ruleMatches.flip.imp fun _ _ isMatch => isMatch.refs
    rw [refs]
    have inside : ∀ c ∈ (product (orderedFacts rule facts)).filter (engine.qualifies rule),
        c ∈ combinations rule facts := fun c listed => perm.mem_iff.mp (List.mem_of_mem_filter listed)
    exact nodup.map_on fun c hc d hd same => refsOf_inj distinct ids (inside c hc) (inside d hd) same

/-! ## The order of the facts -/

/-- Facts with different ids are sorted in one way. -/
theorem sortFacts_perm {fs gs : List (Fact P)} (perm : fs.Perm gs) (ids : (fs.map (·.factId)).Nodup) :
    sortFacts fs = sortFacts gs := by
  have sorted (hs : List (Fact P)) : (sortFacts hs).Pairwise fun f g => f.factId ≤ g.factId :=
    List.pairwise_insertionSort (fun f g : Fact P => f.factId ≤ g.factId) hs
  have same : (sortFacts fs).Perm (sortFacts gs) :=
    (List.perm_insertionSort _ fs).trans (perm.trans (List.perm_insertionSort _ gs).symm)
  refine same.eq_of_pairwise ?_ (sorted fs) (sorted gs)
  intro f g hf hg le ge
  have inF : f ∈ fs := (List.perm_insertionSort _ fs).mem_iff.mp hf
  have inG : g ∈ fs := perm.mem_iff.mpr ((List.perm_insertionSort _ gs).mem_iff.mp hg)
  exact List.inj_on_of_nodup_map ids inF inG (String.le_antisymm le ge)

theorem Permuted.mem_keys (permuted : Permuted facts others) (name : String) :
    name ∈ others.keys ↔ name ∈ facts.keys := by
  rw [Rules.mem_keys, Rules.mem_keys]
  have related := permuted name
  cases hf : facts.get? name <;> cases ho : others.get? name <;> rw [hf, ho] at related <;> first | rfl | cases related

theorem Permuted.orderedFacts_eq (permuted : Permuted facts others) (ids : DistinctIds facts) :
    orderedFacts rule others = orderedFacts rule facts := by
  refine List.map_congr_left fun name _ => ?_
  have related := permuted name
  cases hf : facts.get? name with
  | none =>
    cases ho : others.get? name with
    | none => rfl
    | some gs =>
      rw [hf, ho] at related
      cases related
  | some fs =>
    cases ho : others.get? name with
    | none =>
      rw [hf, ho] at related
      cases related
    | some gs =>
      rw [hf, ho] at related
      cases related with
      | some perm => exact (sortFacts_perm perm (ids (name, fs) (Mapping.mem_iff.mpr hf))).symm

/-- Facts in another order are evaluated alike, also where the evaluation fails. -/
theorem evaluate_permuted (permuted : Permuted facts others) (ids : DistinctIds facts) :
    engine.evaluate rule others = engine.evaluate rule facts := by
  have ordered : orderedFacts rule others = orderedFacts rule facts := permuted.orderedFacts_eq ids
  have unknown : (sortedMissing others.keys rule.inputs).isEmpty = (sortedMissing facts.keys rule.inputs).isEmpty := by
    rw [Bool.eq_iff_iff, sortedMissing_isEmpty, sortedMissing_isEmpty]
    exact forall_congr' fun name => imp_congr_left (permuted.mem_keys name)
  have absent : (sortedMissing rule.inputs others.keys).isEmpty = (sortedMissing rule.inputs facts.keys).isEmpty := by
    rw [Bool.eq_iff_iff, sortedMissing_isEmpty, sortedMissing_isEmpty]
    exact forall_congr' fun name => imp_congr_right fun _ => permuted.mem_keys name
  simp only [orderedFacts] at ordered
  simp only [OfflineRuleEngine.evaluate, unknown, absent, ordered]

end

end

/-! ## A rule whose score is rounded -/

/-- A rule with the base 0.1234567 and one feature of weight 0.5. -/
def roundedRule : RuleSpec where
  schemaVersion := "rule.v1"
  ruleId := "rounded"
  version := 1
  kind := "offline_inference"
  enabled := true
  scope := {}
  inputs := ["endpoint"]
  predicates := [⟨"half.v1", []⟩]
  scoreBase := ⟨"0.1234567", 1234567 / 10000000, by decide +kernel⟩
  scoreFeatures := [⟨⟨"half.v1", []⟩, ⟨"0.5", 1 / 2, by decide +kernel⟩⟩]
  emit := ⟨"none.v1", []⟩
  safety := ⟨"forbidden", "forbidden", 10⟩

/-- An engine whose only predicate matches everything with the value 0.5. -/
def roundedEngine : OfflineRuleEngine Unit Unit where
  predicates name := if name = "half.v1" then
      some ⟨"half.v1", [("endpoint", .endpoint)], fun _ => .ok (), fun _ _ => .ok (some ⟨true, 1 / 2, ["HALF"]⟩)⟩
    else none
  outputs name := if name = "none.v1" then
      some ⟨"none.v1", [("endpoint", .endpoint)], fun _ => .ok (), fun _ _ _ _ _ => .ok ()⟩
    else none
  sha256 _ := ""

def roundedFacts : Mapping (List (Fact Unit)) :=
  .ofItems [("endpoint", [
    { factId := "e1", projectId := "p", envId := "e", kind := .endpoint, content := () },
    { factId := "e2", projectId := "p", envId := "e", kind := .endpoint, content := () }])]

theorem roundedEngine_answers :
    ∃ definition, roundedEngine.Answers roundedRule roundedFacts ⟨"half.v1", []⟩ definition := by
  refine ⟨_, rfl, rfl, ?_, fun _ _ => ⟨_, rfl, by norm_num, by norm_num⟩⟩
  intro e required
  obtain rfl := List.mem_singleton.mp required
  decide

theorem roundedEngine_total : roundedEngine.Total roundedRule roundedFacts where
  network := rfl
  mutation := rfl
  budget := by decide
  relation := .inl rfl
  keys name := Iff.rfl
  predicates call listed := by
    obtain rfl := List.mem_singleton.mp listed
    exact roundedEngine_answers
  features feature listed := by
    obtain rfl := List.mem_singleton.mp listed
    exact roundedEngine_answers
  output := by
    refine ⟨_, rfl, rfl, ?_, fun _ _ _ _ _ => ⟨_, rfl⟩⟩
    intro e required
    obtain rfl := List.mem_singleton.mp required
    decide

theorem roundedFacts_ids : DistinctIds roundedFacts := by
  intro e listed
  obtain rfl := List.mem_singleton.mp listed
  decide

end ApiManger.Rules
