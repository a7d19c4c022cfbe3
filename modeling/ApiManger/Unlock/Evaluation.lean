import ApiManger.Unlock.Steps

/-!
# What the evaluation depends on

The evaluation is that of the plan alone, and names just the steps that an abandoned step keeps from ever becoming
ready, where an abandoned producer of a required fact is its only one and no satisfied fact alone is reported. More
satisfied facts never make a ready step wait.
-/

namespace ApiManger.Unlock
open Collection Python

variable {steps : List UnlockStep} {facts : List PreconditionFact} {key : String}

/-! ## Producers -/

theorem get?_foldl_setdefault (d : Mapping String) (produced : List String) (value : String) :
    (produced.foldl (fun d key => d.setdefault key value) d).get? key =
      (d.get? key).or (if key ∈ produced then some value else none) := by
  induction produced generalizing d with
  | nil => rw [List.foldl_nil, if_neg List.not_mem_nil, Option.or_none]
  | cons first rest ih =>
    rw [List.foldl_cons, ih, Mapping.get?_setdefault, Option.or_assoc]
    by_cases same : first = key
    · rw [if_pos same, Option.some_or, if_pos (same ▸ List.mem_cons_self)]
    · have listed : key ∈ first :: rest ↔ key ∈ rest := by
        rw [List.mem_cons, or_iff_right (Ne.symm same)]
      rw [if_neg same, Option.none_or]
      simp only [listed]

/-- The first step of the list that produces a fact counts as its producer. -/
theorem get?_producedBy (steps : List UnlockStep) (key : String) :
    (producedBy steps).get? key = (steps.find? (·.producesFactKeys.contains key)).map (·.stepKey) := by
  have folded (d : Mapping String) : (steps.foldl (fun d s =>
      s.producesFactKeys.foldl (fun d produced => d.setdefault produced s.stepKey) d) d).get? key =
        (d.get? key).or ((steps.find? (·.producesFactKeys.contains key)).map (·.stepKey)) := by
    induction steps generalizing d with
    | nil => rw [List.foldl_nil, List.find?_nil, Option.map_none, Option.or_none]
    | cons s rest ih =>
      rw [List.foldl_cons, ih, get?_foldl_setdefault, Option.or_assoc, List.find?_cons]
      by_cases produced : key ∈ s.producesFactKeys
      · rw [if_pos produced, Option.some_or, List.contains_iff_mem.mpr produced, Option.map_some]
      · rw [if_neg produced, Option.none_or, List.contains_eq_mem, decide_eq_false produced]
  exact (folded .empty).trans (Option.none_or ..)

variable {s : UnlockStep} {others : List UnlockStep}

theorem get?_byKey (distinct : (steps.map (·.stepKey)).Nodup) (listed : s ∈ steps) :
    (byKey steps).get? s.stepKey = some s := by
  have keys : Collection.Distinct Prod.fst (steps.map fun s => (s.stepKey, s)) := by
    rw [Collection.Distinct, List.map_map]
    exact distinct
  refine Mapping.mem_iff.mp ?_
  rw [byKey, Mapping.ofItems_items keys]
  exact List.mem_map_of_mem listed

theorem blockedProducer_eq (distinct : (steps.map (·.stepKey)).Nodup) (key : String) : blockedProducer steps key =
    ((steps.find? (·.producesFactKeys.contains key)).filter (·.status == .abandoned)).map (·.stepKey) := by
  rw [blockedProducer, get?_producedBy]
  cases first : steps.find? (·.producesFactKeys.contains key) with
  | none => rfl
  | some p =>
    have listed := List.mem_of_find?_eq_some first
    rw [Option.map_some, Option.filter_some, Option.filter_some, get?_byKey distinct listed, Option.map_some]
    cases p.status <;> rfl

/-- An abandoned step that produces a fact. -/
def AbandonedProducer (steps : List UnlockStep) (key : String) (p : UnlockStep) : Prop :=
  p ∈ steps ∧ key ∈ p.producesFactKeys ∧ p.status = .abandoned

/-- A fact with an abandoned producer has no other. -/
def SoleProducer (steps : List UnlockStep) (key : String) : Prop :=
  ∀ p, AbandonedProducer steps key p → ∀ q ∈ steps, key ∈ q.producesFactKeys → q = p

theorem blockedProducer_eq_some_iff (distinct : (steps.map (·.stepKey)).Nodup) (sole : SoleProducer steps key)
    {name : String} :
    blockedProducer steps key = some name ↔ ∃ p, AbandonedProducer steps key p ∧ p.stepKey = name := by
  rw [blockedProducer_eq distinct]
  cases first : steps.find? (·.producesFactKeys.contains key) with
  | none =>
    refine iff_of_false (fun here => nomatch here) ?_
    rintro ⟨p, ⟨listed, produces, -⟩, -⟩
    exact List.find?_eq_none.mp first p listed (List.contains_iff_mem.mpr produces)
  | some p =>
    have listed := List.mem_of_find?_eq_some first
    have matched : p.producesFactKeys.contains key = true := by simpa using List.find?_some first
    have produces := List.contains_iff_mem.mp matched
    rw [Option.filter_some]
    constructor
    · intro here
      split_ifs at here with abandoned
      · exact ⟨p, ⟨listed, produces, beq_iff_eq.mp abandoned⟩, Option.some.inj here⟩
      · cases here
    · rintro ⟨q, abandoned, rfl⟩
      obtain rfl := sole q abandoned p listed produces
      rw [if_pos (beq_iff_eq.mpr abandoned.2.2), Option.map_some]

/-! ## The order of the steps -/

/-- Every required fact with an abandoned producer has no other producer. -/
def SoleProducers (steps : List UnlockStep) : Prop :=
  ∀ s ∈ steps, ∀ key ∈ s.requiresFactKeys, SoleProducer steps key

theorem downstream_perm (perm : others.Perm steps) (s : UnlockStep) :
    downstream others s = downstream steps s :=
  sorted_eq_of_perm ((perm.filter _).map _)

theorem evaluateStep_perm (perm : others.Perm steps)
    (distinct : (steps.map (·.stepKey)).Nodup) (soles : SoleProducers steps) (satisfied : List String)
    (listed : s ∈ steps) : evaluateStep others satisfied s = evaluateStep steps satisfied s := by
  have distinct' : (others.map (·.stepKey)).Nodup := (perm.map _).nodup_iff.mpr distinct
  have producers : s.requiresFactKeys.filterMap (blockedProducer others) =
      s.requiresFactKeys.filterMap (blockedProducer steps) := by
    refine List.filterMap_congr fun key required => Option.ext fun name => ?_
    have sole := soles s listed key required
    have members (p : UnlockStep) : AbandonedProducer others key p ↔ AbandonedProducer steps key p := by
      rw [AbandonedProducer, perm.mem_iff, AbandonedProducer]
    have sole' : SoleProducer others key := fun p abandoned q inside =>
      sole p ((members p).mp abandoned) q (perm.mem_iff.mp inside)
    rw [blockedProducer_eq_some_iff distinct' sole', blockedProducer_eq_some_iff distinct sole]
    simp only [members]
  simp only [evaluateStep, downstream_perm perm, producers]

theorem evaluated_inj (distinct : (steps.map (·.stepKey)).Nodup) {satisfied : List String} :
    ∀ a ∈ steps.map (evaluateStep steps satisfied), ∀ b ∈ steps.map (evaluateStep steps satisfied),
      a.rank = b.rank → a = b := by
  intro a inA b inB same
  obtain ⟨s, listed, rfl⟩ := List.mem_map.mp inA
  obtain ⟨t, listed', rfl⟩ := List.mem_map.mp inB
  have keys : s.stepKey = t.stepKey := congrArg (fun rank => (ofLex rank).2) same
  rw [List.inj_on_of_nodup_map distinct listed listed' keys]

/-- The order of the steps does not matter. -/
theorem evaluateSteps_perm (perm : others.Perm steps)
    (distinct : (steps.map (·.stepKey)).Nodup) (soles : SoleProducers steps) :
    evaluateSteps others facts = evaluateSteps steps facts := by
  have same : others.map (evaluateStep others (satisfiedKeys facts)) =
      others.map (evaluateStep steps (satisfiedKeys facts)) :=
    List.map_congr_left fun s listed => evaluateStep_perm perm distinct soles _ (perm.mem_iff.mp listed)
  rw [evaluateSteps, same, evaluateSteps]
  exact (sortedBy_eq_of_perm (perm.symm.map _) (evaluated_inj distinct)).symm

theorem mem_evaluateSteps {item : Evaluated} :
    item ∈ evaluateSteps steps facts ↔ ∃ s ∈ steps, evaluateStep steps (satisfiedKeys facts) s = item := by
  rw [evaluateSteps, mem_sortedBy, List.mem_map]

/-- What is reported for a fact is one of its producers. -/
theorem produces_of_blockedProducer (distinct : (steps.map (·.stepKey)).Nodup) {p : UnlockStep} (listed : p ∈ steps)
    (reported : blockedProducer steps key = some p.stepKey) : key ∈ p.producesFactKeys := by
  rw [blockedProducer_eq distinct, Option.map_eq_some_iff] at reported
  obtain ⟨q, first, same⟩ := reported
  have found := (Option.filter_eq_some_iff.mp first).1
  have matched : q.producesFactKeys.contains key = true := by simpa using List.find?_some found
  obtain rfl := List.inj_on_of_nodup_map distinct (List.mem_of_find?_eq_some found) listed same
  exact List.contains_iff_mem.mp matched

/-- A fact that is reported for each of two counts as often is reported for the same elements. -/
theorem imp_of_countP_eq {α : Type} {P Q : α → Bool} {list : List α} (imp : ∀ a ∈ list, P a = true → Q a = true)
    (counts : list.countP P = list.countP Q) : ∀ a ∈ list, Q a = true → P a = true := by
  have both : (list.filter Q).filter P = list.filter P := by
    rw [List.filter_filter]
    refine List.filter_congr fun a listed => ?_
    cases here : P a with
    | false => rfl
    | true => rw [imp a listed here, Bool.true_and]
  have lengths : ((list.filter Q).filter P).length = (list.filter Q).length := by
    rw [both, ← List.countP_eq_length_filter, counts, List.countP_eq_length_filter]
  have same : (list.filter Q).filter P = list.filter Q := List.filter_sublist.eq_of_length lengths
  intro a listed holds
  have inside : a ∈ list.filter Q := List.mem_filter.mpr ⟨listed, holds⟩
  rw [← same] at inside
  exact (List.mem_filter.mp inside).2

/-- Two producers, of which one is abandoned, are told apart by the order. -/
theorem sole_of_order (distinct : (steps.map (·.stepKey)).Nodup)
    (order : ∀ others : List UnlockStep, others.Perm steps → evaluateSteps others facts = evaluateSteps steps facts) :
    SoleProducers steps := by
  intro s listed key required p ⟨inP, producesP, abandoned⟩ q inQ producesQ
  by_contra other
  obtain ⟨rest, perm⟩ : ∃ rest, (p :: q :: rest).Perm steps := by
    have inErased : q ∈ steps.erase p := (List.mem_erase_of_ne other).mpr inQ
    exact ⟨(steps.erase p).erase q,
      ((List.perm_cons_erase inP).trans ((List.perm_cons_erase inErased).cons p)).symm⟩
  have perm' : (q :: p :: rest).Perm steps := (List.Perm.swap p q rest).trans perm
  have distinctFirst : ((p :: q :: rest).map (·.stepKey)).Nodup := (perm.map _).nodup_iff.mpr distinct
  have distinctSecond : ((q :: p :: rest).map (·.stepKey)).Nodup := (perm'.map _).nodup_iff.mpr distinct
  -- the item of the step is one in both evaluations
  have same : evaluateStep (p :: q :: rest) (satisfiedKeys facts) s =
      evaluateStep (q :: p :: rest) (satisfiedKeys facts) s := by
    have inFirst : evaluateStep (p :: q :: rest) (satisfiedKeys facts) s ∈ evaluateSteps (p :: q :: rest) facts :=
      mem_evaluateSteps.mpr ⟨s, perm.mem_iff.mpr listed, rfl⟩
    rw [order _ perm, ← order _ perm'] at inFirst
    obtain ⟨t, inSteps, item⟩ := mem_evaluateSteps.mp inFirst
    obtain rfl := List.inj_on_of_nodup_map distinctSecond inSteps (perm'.mem_iff.mpr listed)
      (congrArg Evaluated.stepKey item)
    exact item.symm
  have reported : (s.requiresFactKeys.filterMap (blockedProducer (p :: q :: rest))).Perm
      (s.requiresFactKeys.filterMap (blockedProducer (q :: p :: rest))) := by
    have lists : sorted (s.requiresFactKeys.filterMap (blockedProducer (p :: q :: rest))) =
        sorted (s.requiresFactKeys.filterMap (blockedProducer (q :: p :: rest))) :=
      congrArg Evaluated.deadlockedByAbandoned same
    exact (sorted_perm _).symm.trans (lists ▸ sorted_perm _)
  have first (k : String) (produces : k ∈ p.producesFactKeys) :
      blockedProducer (p :: q :: rest) k = some p.stepKey := by
    rw [blockedProducer_eq distinctFirst, List.find?_cons, List.contains_iff_mem.mpr produces]
    simp [abandoned]
  have counted (name : Option String) :
      (name.map (· == p.stepKey)).getD false = true ↔ name = some p.stepKey := by
    cases name <;> simp
  have counts := reported.countP_eq (· == p.stepKey)
  rw [List.countP_filterMap, List.countP_filterMap] at counts
  have again := imp_of_countP_eq (fun k _ second => ?_) counts.symm key required ?_
  · have second := (counted _).mp again
    rw [blockedProducer_eq distinctSecond, List.find?_cons, List.contains_iff_mem.mpr producesQ] at second
    have keys := (Option.map_eq_some_iff.mp second)
    obtain ⟨r, found, key⟩ := keys
    obtain rfl := Option.some.inj (Option.filter_eq_some_iff.mp found).1
    exact other (List.inj_on_of_nodup_map distinct inQ inP key)
  · have produces := produces_of_blockedProducer distinctSecond (by simp) ((counted _).mp second)
    exact (counted _).mpr (first k produces)
  · exact (counted _).mpr (first key producesP)

/-! ## The plan alone -/

/-- The evaluation depends on the plan alone, reports just the steps that an abandoned producer keeps waiting, and
keeps a ready step ready when one more fact is satisfied. -/
structure PlanOnly (plan : Plan) (facts : List PreconditionFact) : Prop where
  order : ∀ others : List UnlockStep, others.Perm plan.steps →
    evaluateSteps others facts = evaluateSteps plan.steps facts
  deadlocked : ∀ item ∈ evaluateSteps plan.steps facts, item.deadlockedByAbandoned ≠ [] ↔
    ∃ key ∈ item.requiresFactKeys, key ∉ satisfiedKeys facts ∧ (∃ p ∈ plan.steps, key ∈ p.producesFactKeys) ∧
      ∀ p ∈ plan.steps, key ∈ p.producesFactKeys → p.status = .abandoned
  stillReady : ∀ fact : PreconditionFact, fact.state = .satisfied → ∀ item ∈ evaluateSteps plan.steps facts,
    item.readiness = .ready → ∃ later ∈ evaluateSteps plan.steps (fact :: facts),
      later.stepKey = item.stepKey ∧ later.readiness = .ready

/-- A step that requires a satisfied fact with an abandoned producer requires an open one too. -/
def NoSatisfiedAlone (steps : List UnlockStep) (facts : List PreconditionFact) : Prop :=
  ∀ s ∈ steps, (∃ key ∈ s.requiresFactKeys, key ∈ satisfiedKeys facts ∧ ∃ p, AbandonedProducer steps key p) →
    ∃ key ∈ s.requiresFactKeys, key ∉ satisfiedKeys facts ∧ ∃ p, AbandonedProducer steps key p

/-- A step is reported where a fact it requires has an abandoned producer. -/
theorem deadlocked_iff (distinct : (steps.map (·.stepKey)).Nodup) (satisfied : List String)
    (soles : ∀ key ∈ s.requiresFactKeys, SoleProducer steps key) :
    (evaluateStep steps satisfied s).deadlockedByAbandoned ≠ [] ↔
      ∃ key ∈ s.requiresFactKeys, ∃ p, AbandonedProducer steps key p := by
  show sorted (s.requiresFactKeys.filterMap (blockedProducer steps)) ≠ [] ↔ _
  rw [Ne, sorted_eq_nil_iff, List.filterMap_eq_nil_iff]
  push Not
  refine exists_congr fun key => and_congr_right fun required => ?_
  rw [Option.ne_none_iff_exists']
  simp only [blockedProducer_eq_some_iff distinct (soles key required)]
  exact ⟨fun ⟨_, p, abandoned, _⟩ => ⟨p, abandoned⟩, fun ⟨p, abandoned⟩ => ⟨p.stepKey, p, abandoned, rfl⟩⟩

/-- All producers are abandoned just where the sole producer is. -/
theorem all_abandoned_iff (sole : SoleProducer steps key) :
    ((∃ p ∈ steps, key ∈ p.producesFactKeys) ∧ ∀ p ∈ steps, key ∈ p.producesFactKeys → p.status = .abandoned) ↔
      ∃ p, AbandonedProducer steps key p := by
  constructor
  · rintro ⟨⟨p, listed, produces⟩, all⟩
    exact ⟨p, listed, produces, all p listed produces⟩
  · rintro ⟨p, abandoned⟩
    refine ⟨⟨p, abandoned.1, abandoned.2.1⟩, fun q listed produces => ?_⟩
    rw [sole p abandoned q listed produces]
    exact abandoned.2.2

theorem readinessOf_eq_ready_iff {status : Status} {missing : List String} :
    readinessOf status missing = .ready ↔ status = .pending ∧ missing = [] := by
  cases status <;> simp [readinessOf]

/-- A ready step stays ready when one more fact is satisfied. -/
theorem still_ready (fact : PreconditionFact) {item : Evaluated} (listed : item ∈ evaluateSteps steps facts)
    (ready : item.readiness = .ready) : ∃ later ∈ evaluateSteps steps (fact :: facts),
      later.stepKey = item.stepKey ∧ later.readiness = .ready := by
  obtain ⟨s, inSteps, rfl⟩ := mem_evaluateSteps.mp listed
  refine ⟨_, mem_evaluateSteps.mpr ⟨s, inSteps, rfl⟩, rfl, ?_⟩
  obtain ⟨pending, missing⟩ := readinessOf_eq_ready_iff.mp ready
  refine readinessOf_eq_ready_iff.mpr ⟨pending, ?_⟩
  rw [sorted_eq_nil_iff, List.filter_eq_nil_iff] at missing ⊢
  intro key required waits
  refine missing key required ?_
  have more : satisfiedKeys facts ⊆ satisfiedKeys (fact :: facts) := fun name inside => by
    obtain ⟨old, satisfied, same⟩ := List.mem_map.mp inside
    obtain ⟨inFacts, state⟩ := List.mem_filter.mp satisfied
    exact List.mem_map.mpr ⟨old, List.mem_filter.mpr ⟨List.mem_cons_of_mem fact inFacts, state⟩, same⟩
  rw [Bool.not_eq_true', List.contains_eq_mem, decide_eq_false_iff_not] at waits ⊢
  exact fun inside => waits (more inside)

/-- **Readiness is of the plan.** The evaluation depends on the plan alone and reports the steps that wait forever just
where abandoned producers of required facts are sole, and no step is reported for satisfied facts alone. -/
theorem planOnly_iff (plan : Plan) (facts : List PreconditionFact) :
    PlanOnly plan facts ↔ SoleProducers plan.steps ∧ NoSatisfiedAlone plan.steps facts := by
  constructor
  · intro planOnly
    have soles := sole_of_order plan.distinct planOnly.order
    refine ⟨soles, fun s listed ⟨key, required, _, abandoned⟩ => ?_⟩
    have reported := (deadlocked_iff plan.distinct (satisfiedKeys facts) (soles s listed)).mpr ⟨key, required, abandoned⟩
    obtain ⟨open_key, required, unsatisfied, all⟩ :=
      (planOnly.deadlocked _ (mem_evaluateSteps.mpr ⟨s, listed, rfl⟩)).mp reported
    exact ⟨open_key, required, unsatisfied, (all_abandoned_iff (soles s listed open_key required)).mp all⟩
  · rintro ⟨soles, alone⟩
    refine ⟨fun others perm => evaluateSteps_perm perm plan.distinct soles, ?_,
      fun fact _ item listed ready => still_ready fact listed ready⟩
    intro item listed
    obtain ⟨s, inSteps, rfl⟩ := mem_evaluateSteps.mp listed
    rw [deadlocked_iff plan.distinct _ (soles s inSteps)]
    constructor
    · rintro ⟨key, required, abandoned⟩
      obtain ⟨open_key, required, unsatisfied, abandoned⟩ :
          ∃ key ∈ s.requiresFactKeys, key ∉ satisfiedKeys facts ∧ ∃ p, AbandonedProducer plan.steps key p := by
        by_cases satisfied : key ∈ satisfiedKeys facts
        · exact alone s inSteps ⟨key, required, satisfied, abandoned⟩
        · exact ⟨key, required, satisfied, abandoned⟩
      exact ⟨open_key, required, unsatisfied, (all_abandoned_iff (soles s inSteps open_key required)).mpr abandoned⟩
    · rintro ⟨key, required, -, all⟩
      exact ⟨key, required, (all_abandoned_iff (soles s inSteps key required)).mp all⟩

/-- Two steps that produce a fact, of which the first is abandoned, and a step that requires it. -/
def twoProducers : Plan where
  steps := [⟨"a", "A", "tree", none, .abandoned, [], ["f"]⟩, ⟨"b", "B", "tree", none, .pending, [], ["f"]⟩,
    ⟨"c", "C", "tree", none, .pending, ["f"], []⟩]
  distinct := by decide

/-- The step that waits is reported although another step still produces the fact, and not in another order; with the
fact satisfied it is ready and still reported. -/
theorem twoProducers_reported :
    (evaluateSteps twoProducers.steps []).map (·.deadlockedByAbandoned) = [[], [], ["a"]] ∧
    (evaluateSteps (twoProducers.steps.reverse) []).map (·.deadlockedByAbandoned) = [[], [], []] ∧
    (evaluateSteps twoProducers.steps [⟨"f", .satisfied⟩]).map (·.readiness) = [.abandoned, .ready, .ready] ∧
    (evaluateSteps twoProducers.steps [⟨"f", .satisfied⟩]).map (·.deadlockedByAbandoned) = [[], [], ["a"]] ∧
    ¬ PlanOnly twoProducers [] := by
  have forward : (evaluateSteps twoProducers.steps []).map (·.deadlockedByAbandoned) = [[], [], ["a"]] := by decide +kernel
  have backward : (evaluateSteps (twoProducers.steps.reverse) []).map (·.deadlockedByAbandoned) = [[], [], []] := by
    decide +kernel
  refine ⟨forward, backward, by decide +kernel, by decide +kernel, fun planOnly => ?_⟩
  rw [planOnly.order _ (List.reverse_perm _), forward] at backward
  cases backward

end ApiManger.Unlock
