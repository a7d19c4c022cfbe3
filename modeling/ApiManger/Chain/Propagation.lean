import ApiManger.Chain.Declared
import ApiManger.Chain.Rendering
import ApiManger.Chain.WellFormed

/-!
# What blocks a step

`resolve_chain` decides over each step by a row of checks, some of which look at the status so
far. A step is clear where none of them holds it up: that is said here on the inputs, as a least
predicate over the steps, and the statuses of the plan are compared with it.
-/

namespace ApiManger.Chain
open Python

/-! ## Parameters -/

/-- The parameter must be there and not empty. -/
def ChainParameter.requiredNonEmpty (p : ChainParameter) : Bool :=
  match p.source with
  | .constant _ => false
  | .upstreamRef _ requiredNonEmpty => requiredNonEmpty

/-- The parameter blocks its step, whatever the status is so far. -/
def blocksAnyway (sources : Mapping Json) (p : ChainParameter) : Bool :=
  match p.source with
  | .constant _ => false
  | .upstreamRef _ requiredNonEmpty => match valueOf sources p with
    | none => p.required
    | some value => requiredNonEmpty && isEmptySource value

/-- The parameter blocks a step that is ready so far. -/
def blocks (sources : Mapping Json) (p : ChainParameter) : Bool :=
  match p.source with
  | .constant value => p.required && isEmptySource value
  | .upstreamRef _ _ => blocksAnyway sources p

/-- The value of a parameter goes into the path. -/
def setPathValue (sources : Mapping Json) (values : Mapping Json) (p : ChainParameter) : Mapping Json :=
  match valueOf sources p with
  | some value => if p.position = .path then values.set p.name value else values
  | none => values

/-- The values that go into the path of a step. -/
def placedValues (sources : Mapping Json) (step : ChainStep) : Mapping Json :=
  step.parameters.foldl (setPathValue sources) .empty

variable {sources : Mapping Json}

theorem blocks_of_anyway {p : ChainParameter} (blocked : blocksAnyway sources p = true) :
    blocks sources p = true := by
  unfold blocks
  cases here : p.source with
  | constant value =>
    unfold blocksAnyway at blocked
    rw [here] at blocked
    cases blocked
  | upstreamRef ref requiredNonEmpty => exact blocked

def statusAfter (sources : Mapping Json) (parameters : List ChainParameter) (start : StepStatus) : StepStatus :=
  if parameters.any (blocksAnyway sources) || (start == .ready && parameters.any (blocks sources)) then .blocked else start

/-- What a turn over a parameter does to the status and to the values of the path. -/
theorem resolveParameter_status {plan after : StepPlan} {p : ChainParameter}
    (turn : resolveParameter sources plan p = .ok after) :
    after.status = statusAfter sources [p] plan.status ∧ after.pathValues = setPathValue sources plan.pathValues p := by
  unfold resolveParameter at turn
  obtain ⟨value, resolved, turn⟩ := bind_eq_ok.mp turn
  have value_eq : valueOf sources p = value := by rw [valueOf, resolved]
  have alone : ∀ start, statusAfter sources [p] start =
      if blocksAnyway sources p || (start == .ready && blocks sources p) then .blocked else start := by
    intro start
    simp only [statusAfter, List.any_cons, List.any_nil, Bool.or_false]
  rw [alone, setPathValue, value_eq]
  cases source : p.source with
  | constant constant =>
    rw [resolvedValue, source] at resolved
    cases Except.ok.inj resolved
    rw [source] at turn
    cases Except.ok.inj turn
    have anyway : blocksAnyway sources p = false := by rw [blocksAnyway, source]
    have here : blocks sources p = (p.required && isEmptySource constant) := by rw [blocks, source]
    rw [anyway, here, Bool.false_or]
    by_cases holds : plan.status = .ready ∧ p.required = true ∧ isEmptySource constant = true
    · rw [if_pos holds, if_pos (by simp [holds])]
      exact ⟨rfl, rfl⟩
    · rw [if_neg holds, if_neg (by simpa using holds)]
      exact ⟨rfl, rfl⟩
  | upstreamRef ref requiredNonEmpty =>
    rw [source] at turn
    have here : blocks sources p = blocksAnyway sources p := by rw [blocks, source]
    rw [here]
    cases value with
    | none =>
      cases Except.ok.inj turn
      have anyway : blocksAnyway sources p = p.required := by rw [blocksAnyway, source, value_eq]
      rw [anyway]
      cases p.required <;> simp [StepPlan.record, StepPlan.block]
    | some found =>
      cases Except.ok.inj turn
      have anyway : blocksAnyway sources p = (requiredNonEmpty && isEmptySource found) := by
        rw [blocksAnyway, source, value_eq]
      rw [anyway]
      cases requiredNonEmpty && isEmptySource found <;> simp [StepPlan.record, StepPlan.block]

theorem two_turns (start : StepStatus) (anyway here anyLater hereLater : Bool) :
    (if anyLater || ((if anyway || (start == .ready && here) then StepStatus.blocked else start) == .ready && hereLater)
      then StepStatus.blocked else if anyway || (start == .ready && here) then .blocked else start) =
      if (anyway || anyLater) || (start == .ready && (here || hereLater)) then .blocked else start := by
  cases start <;> cases anyway <;> cases here <;> cases anyLater <;> cases hereLater <;> rfl

/-- What the loop over the parameters does to them. -/
theorem resolveParameters_status {parameters : List ChainParameter} {plan after : StepPlan}
    (folded : parameters.foldlM (resolveParameter sources) plan = .ok after) :
    after.status = statusAfter sources parameters plan.status ∧
      after.pathValues = parameters.foldl (setPathValue sources) plan.pathValues := by
  induction parameters generalizing plan with
  | nil =>
    cases Except.ok.inj folded
    exact ⟨by simp [statusAfter], rfl⟩
  | cons p rest ih =>
    rw [List.foldlM_cons] at folded
    obtain ⟨middle, turn, folded⟩ := bind_eq_ok.mp folded
    obtain ⟨status, values⟩ := resolveParameter_status turn
    obtain ⟨later, later_values⟩ := ih folded
    refine ⟨?_, by rw [later_values, values, List.foldl_cons]⟩
    rw [later, status]
    unfold statusAfter
    simp only [List.any_cons, List.any_nil, Bool.or_false]
    exact two_turns plan.status (blocksAnyway sources p) (blocks sources p) _ _

/-- The loop over the parameters ends where every reference can be parsed. -/
theorem resolveParameters_total {parameters : List ChainParameter}
    (parses : ∀ p ∈ parameters, ∀ ref, p.ref? = some ref → ∃ parsed, parseUpstreamRef ref = .ok parsed) (plan : StepPlan) :
    ∃ after, parameters.foldlM (resolveParameter sources) plan = .ok after := by
  induction parameters generalizing plan with
  | nil => exact ⟨plan, rfl⟩
  | cons p rest ih =>
    have value : ∃ value, resolvedValue sources p = .ok value := by
      unfold resolvedValue
      cases source : p.source with
      | constant value => exact ⟨some value, rfl⟩
      | upstreamRef ref requiredNonEmpty =>
        obtain ⟨parsed, parse⟩ := parses p List.mem_cons_self ref (by rw [ChainParameter.ref?, source])
        unfold resolveUpstreamRef
        dsimp only
        rw [parse]
        exact ⟨_, rfl⟩
    obtain ⟨value, resolved⟩ := value
    have turn : ∃ middle, resolveParameter sources plan p = .ok middle := by
      unfold resolveParameter
      rw [resolved, ok_bind]
      split <;> exact ⟨_, rfl⟩
    obtain ⟨middle, turn⟩ := turn
    obtain ⟨after, later⟩ := ih (fun q mem => parses q (List.mem_cons_of_mem _ mem)) middle
    exact ⟨after, by rw [List.foldlM_cons, turn, ok_bind, later]⟩

/-! ## Steps -/

/-- The status before the parameters. -/
theorem startPlan_status (reasons failures : List String) (statuses : Mapping StepStatus) (step : ChainStep) :
    (startPlan reasons failures statuses step).status =
      if failures.contains step.stepId then .failed
      else if (step.dependsOn.all fun dependency => statuses.get? dependency == some .ready) && reasons.isEmpty then .ready
      else .blocked := by
  unfold startPlan
  dsimp only
  by_cases failed : failures.contains step.stepId = true
  · rw [if_pos failed, if_neg (by simp), if_pos failed]
  rw [if_neg failed, if_neg failed]
  have waits : (step.dependsOn.filter fun dependency => statuses.get? dependency != some .ready).isEmpty =
      step.dependsOn.all fun dependency => statuses.get? dependency == some .ready := by
    rw [Bool.eq_iff_iff, List.isEmpty_iff, List.filter_eq_nil_iff, List.all_eq_true]
    simp
  rw [waits]
  cases step.dependsOn.all fun dependency => statuses.get? dependency == some .ready with
  | false => simp [StepPlan.block]
  | true => cases reasons.isEmpty <;> simp [StepPlan.block]

theorem startPlan_pathValues (reasons failures : List String) (statuses : Mapping StepStatus) (step : ChainStep) :
    (startPlan reasons failures statuses step).pathValues = .empty := by
  unfold startPlan
  dsimp only
  split <;> split <;> first | rfl | split <;> rfl

/-- What a step has in its plan: its status, the values of its path, and the path. -/
structure Resolved (reasons failures : List String) (sources : Mapping Json) (statuses : Mapping StepStatus)
    (step : ChainStep) (plan : StepPlan) : Prop where
  values : plan.pathValues = placedValues sources step
  path : plan.renderedPath = (renderPathTemplate step.pathTemplate (placedValues sources step)).1
  failed : step.stepId ∈ failures → plan.status = if step.parameters.any (blocksAnyway sources) then .blocked else .failed
  ready : plan.status = .ready ↔ step.stepId ∉ failures ∧ (∀ dependency ∈ step.dependsOn,
    statuses.get? dependency = some .ready) ∧ reasons = [] ∧ (∀ p ∈ step.parameters, blocks sources p = false) ∧
    (renderPathTemplate step.pathTemplate (placedValues sources step)).2 = []

/-- The end of a turn over a step. -/
def finishStep (step : ChainStep) (plan : StepPlan) : StepPlan :=
  let rendered := renderPathTemplate step.pathTemplate plan.pathValues
  let plan := { plan with renderedPath := rendered.1 }
  if !rendered.2.isEmpty ∧ plan.status = .ready then
    plan.block "UNRESOLVED_PATH_PARAMETER" ("unresolved path parameter(s): " ++ ", ".intercalate rendered.2)
  else plan

theorem finishStep_plan (step : ChainStep) (plan : StepPlan) :
    (finishStep step plan).pathValues = plan.pathValues ∧
      (finishStep step plan).renderedPath = (renderPathTemplate step.pathTemplate plan.pathValues).1 ∧
      (finishStep step plan).status =
        if plan.status = .ready ∧ (renderPathTemplate step.pathTemplate plan.pathValues).2 ≠ [] then .blocked
        else plan.status := by
  unfold finishStep
  generalize renderPathTemplate step.pathTemplate plan.pathValues = rendered
  obtain ⟨path, missing⟩ := rendered
  cases missing with
  | nil => simp
  | cons name rest => cases plan.status <;> simp [StepPlan.block]

theorem resolveStep_resolved {reasons failures : List String} {statuses : Mapping StepStatus}
    {step : ChainStep} {plan : StepPlan} (planned : resolveStep reasons sources failures statuses step = .ok plan) :
    Resolved reasons failures sources statuses step plan := by
  unfold resolveStep at planned
  obtain ⟨folded, folds, planned⟩ := bind_eq_ok.mp planned
  have finished : finishStep step folded = plan := Except.ok.inj planned
  obtain ⟨status, values⟩ := resolveParameters_status folds
  rw [startPlan_pathValues] at values
  have placed : folded.pathValues = placedValues sources step := values
  rw [startPlan_status] at status
  obtain ⟨last_values, last_path, last_status⟩ := finishStep_plan step folded
  rw [finished, placed] at last_values last_path last_status
  refine ⟨last_values, last_path, ?_, ?_⟩
  · intro failed
    rw [if_pos (List.contains_iff_mem.mpr failed)] at status
    rw [last_status, status, statusAfter]
    cases step.parameters.any (blocksAnyway sources) <;> simp
  · have anyway : step.parameters.any (blocks sources) = false → step.parameters.any (blocksAnyway sources) = false := by
      intro none_
      rw [List.any_eq_false] at none_ ⊢
      exact fun p mem blocked => none_ p mem (blocks_of_anyway blocked)
    have harmless : (∀ p ∈ step.parameters, blocks sources p = false) ↔ step.parameters.any (blocks sources) = false := by
      rw [List.any_eq_false]
      simp only [Bool.not_eq_true]
    have depends : (∀ dependency ∈ step.dependsOn, statuses.get? dependency = some .ready) ↔
        (step.dependsOn.all fun dependency => statuses.get? dependency == some .ready) = true := by
      simp
    have bound : reasons = [] ↔ reasons.isEmpty = true := List.isEmpty_iff.symm
    rw [last_status, harmless, depends, bound, ← List.contains_iff_mem, status, statusAfter]
    cases failures.contains step.stepId with
    | true => cases step.parameters.any (blocksAnyway sources) <;> simp
    | false =>
      cases (step.dependsOn.all fun dependency => statuses.get? dependency == some .ready) with
      | false => simp
      | true =>
        cases reasons.isEmpty with
        | false => simp
        | true =>
          cases blocked : step.parameters.any (blocks sources) with
          | true => simp
          | false => simp [anyway blocked]

/-! ## The loop over the steps -/

def statusesAfter (statuses : Mapping StepStatus) (plans : List (ChainStep × StepPlan)) : Mapping StepStatus :=
  plans.foldl (fun statuses item => statuses.set item.1.stepId item.2.status) statuses

section
variable {reasons : ChainStep → List String} {sources : Mapping Json} {failures : List String}

/-- Each plan was made from the statuses of those before. -/
theorem resolveSteps_each {statuses : Mapping StepStatus} {steps : List ChainStep} {plans : List (ChainStep × StepPlan)}
    (resolved : resolveSteps reasons sources failures statuses steps = .ok plans) :
    plans.map (·.1) = steps ∧ ∀ before item after, plans = before ++ item :: after →
      Resolved (reasons item.1) failures sources (statusesAfter statuses before) item.1 item.2 := by
  induction steps generalizing statuses plans with
  | nil =>
    cases Except.ok.inj resolved
    refine ⟨rfl, fun before item after here => ?_⟩
    exact absurd here (by simp)
  | cons step rest ih =>
    rw [resolveSteps] at resolved
    obtain ⟨plan, planned, resolved⟩ := bind_eq_ok.mp resolved
    obtain ⟨others, later, resolved⟩ := bind_eq_ok.mp resolved
    cases Except.ok.inj resolved
    obtain ⟨same, each⟩ := ih later
    refine ⟨by rw [List.map_cons, same], fun before item after here => ?_⟩
    cases before with
    | nil =>
      obtain ⟨rfl, -⟩ := List.cons.inj here
      exact resolveStep_resolved planned
    | cons first before =>
      obtain ⟨rfl, rest_here⟩ := List.cons.inj here
      exact each before item after rest_here

theorem resolveSteps_total {steps : List ChainStep} (parses : ∀ step ∈ steps, ∀ p ∈ step.parameters, ∀ ref,
    p.ref? = some ref → ∃ parsed, parseUpstreamRef ref = .ok parsed) (statuses : Mapping StepStatus) :
    ∃ plans, resolveSteps reasons sources failures statuses steps = .ok plans := by
  induction steps generalizing statuses with
  | nil => exact ⟨[], rfl⟩
  | cons step rest ih =>
    obtain ⟨folded, folds⟩ := resolveParameters_total (parses step List.mem_cons_self)
      (startPlan (reasons step) failures statuses step)
    have planned : resolveStep (reasons step) sources failures statuses step = .ok (finishStep step folded) := by
      unfold resolveStep
      rw [folds]
      rfl
    obtain ⟨plans, later⟩ := ih (fun s mem => parses s (List.mem_cons_of_mem _ mem))
      (statuses.set step.stepId (finishStep step folded).status)
    exact ⟨(step, finishStep step folded) :: plans, by rw [resolveSteps, planned, ok_bind, later]; rfl⟩

/-- The status of a step among plans of distinct steps. -/
theorem get?_statusesAfter {plans : List (ChainStep × StepPlan)} (distinct : (plans.map (·.1.stepId)).Nodup)
    {item : ChainStep × StepPlan} (mem : item ∈ plans) (statuses : Mapping StepStatus) :
    (statusesAfter statuses plans).get? item.1.stepId = some item.2.status := by
  have kept : ∀ (plans : List (ChainStep × StepPlan)) (statuses : Mapping StepStatus) (id : String),
      (∀ other ∈ plans, other.1.stepId ≠ id) → (statusesAfter statuses plans).get? id = statuses.get? id := by
    intro plans
    induction plans with
    | nil => exact fun _ _ _ => rfl
    | cons first rest ih =>
      intro statuses id others
      refine (ih (statuses.set first.1.stepId first.2.status) id fun other mem => others other (.tail _ mem)).trans ?_
      rw [Mapping.get?_set, if_neg (others first (.head _))]
  induction plans generalizing statuses with
  | nil => exact absurd mem List.not_mem_nil
  | cons first rest ih =>
    rw [List.map_cons, List.nodup_cons] at distinct
    rcases List.mem_cons.mp mem with rfl | mem
    · refine (kept rest _ _ fun other there same => distinct.1 ?_).trans ?_
      · rw [← same]
        exact List.mem_map_of_mem there
      · rw [Mapping.get?_set, if_pos rfl]
    · exact ih distinct.2 mem _

end

/-! ## Clear steps -/

/-- Nothing holds the step up: it did not fail, its endpoint fits, no parameter blocks it, its path
is filled, and so it is for the steps it depends on. -/
inductive Clear (steps : List ChainStep) (reasons : ChainStep → List String) (sources : Mapping Json)
    (failures : List String) : ChainStep → Prop
  | intro {step : ChainStep} (upstream : String → ChainStep) (mem : step ∈ steps) (sound : step.stepId ∉ failures)
    (bound : reasons step = []) (harmless : ∀ p ∈ step.parameters, blocks sources p = false)
    (filled : Filled (placedValues sources step) (pieces step.pathTemplate))
    (named : ∀ dependency ∈ step.dependsOn, (upstream dependency).stepId = dependency)
    (depends : ∀ dependency ∈ step.dependsOn, Clear steps reasons sources failures (upstream dependency)) :
    Clear steps reasons sources failures step

/-- The steps of an accepted definition, where every reference can be parsed. -/
theorem Accepted.refers {d : ChainDefinition} (accepted : Accepted d) {before after : List ChainStep} {step : ChainStep}
    (here : d.steps = before ++ step :: after) : Refers before step := by
  have again := accepted.again
  unfold normalizeChainDefinition at again
  dsimp only at again
  obtain ⟨-, again⟩ := raised_or again
  obtain ⟨steps, -, again⟩ := bind_eq_ok.mp again
  obtain ⟨-, again⟩ := raised_or again
  obtain ⟨profiles, -, again⟩ := bind_eq_ok.mp again
  obtain ⟨-, again⟩ := raised_or again
  obtain ⟨-, again⟩ := raised_or again
  obtain ⟨-, again⟩ := raised_or again
  obtain ⟨checked, checks, again⟩ := bind_eq_ok.mp again
  have same : checked = d.steps := congrArg ChainDefinition.steps (Except.ok.inj again)
  obtain ⟨fixed, -⟩ := checkSteps_ok checks
  have turn := checkSteps_each fixed (same.trans here)
  rw [List.nil_append] at turn
  exact checkStep_refers turn

section
variable {d : ChainDefinition} {reasons : ChainStep → List String} {sources : Mapping Json} {failures : List String}
  {plans : List (ChainStep × StepPlan)}

/-- **Readiness.** A step is ready in the plan exactly where it is clear. -/
theorem ready_iff_clear (accepted : Accepted d)
    (resolved : resolveSteps reasons sources failures .empty d.steps = .ok plans) {item : ChainStep × StepPlan}
    (mem : item ∈ plans) : item.2.status = .ready ↔ Clear d.steps reasons sources failures item.1 := by
  obtain ⟨same, each⟩ := resolveSteps_each resolved
  have distinct : (plans.map (·.1.stepId)).Nodup := by
    have ids := accepted.stepIds
    rw [← same, List.map_map] at ids
    exact ids
  -- the plan of a step has the statuses of the earlier steps it depends on
  have earlier : ∀ before item after, plans = before ++ item :: after → ∀ dependency ∈ item.1.dependsOn,
      ∃ other ∈ before, other.1.stepId = dependency ∧
        (statusesAfter .empty before).get? dependency = some other.2.status := by
    intro before item after here dependency depends
    have split : d.steps = before.map (·.1) ++ item.1 :: after.map (·.1) := by
      rw [← same, here, List.map_append, List.map_cons]
    obtain ⟨s, s_mem, rfl⟩ := accepted.ordered _ _ _ split dependency depends
    obtain ⟨other, other_mem, rfl⟩ := List.mem_map.mp s_mem
    have front : (before.map (·.1.stepId)).Nodup := by
      rw [here, List.map_append] at distinct
      exact (List.nodup_append.mp distinct).1
    exact ⟨other, other_mem, rfl, get?_statusesAfter front other_mem .empty⟩
  constructor
  · intro ready
    obtain ⟨before, after, here⟩ := List.append_of_mem mem
    clear mem
    induction length : before.length using Nat.strongRecOn generalizing before after item with
    | ind n ih =>
      obtain ⟨sound, depends, bound, harmless, filled⟩ := (each before item after here).ready.mp ready
      have upstream : ∀ dependency ∈ item.1.dependsOn, ∃ s : ChainStep, s.stepId = dependency ∧
          Clear d.steps reasons sources failures s := by
        intro dependency depends_on
        obtain ⟨other, other_mem, named, status⟩ := earlier before item after here dependency depends_on
        rw [depends dependency depends_on] at status
        obtain ⟨front, back, split⟩ := List.append_of_mem other_mem
        refine ⟨other.1, named, ih front.length ?_ (Option.some.inj status).symm front (back ++ item :: after) ?_ rfl⟩
        · rw [← length, split, List.length_append, List.length_cons]
          omega
        · rw [here, split, List.append_assoc, List.cons_append]
      have inside : item.1 ∈ d.steps := by
        rw [← same, here]
        exact List.mem_map_of_mem (by simp)
      classical
      let choose (dependency : String) : ChainStep :=
        if depends_on : dependency ∈ item.1.dependsOn then (upstream dependency depends_on).choose else item.1
      have chosen : ∀ dependency ∈ item.1.dependsOn, (choose dependency).stepId = dependency ∧
          Clear d.steps reasons sources failures (choose dependency) := by
        intro dependency depends_on
        have spec := (upstream dependency depends_on).choose_spec
        simp only [choose, dif_pos depends_on]
        exact spec
      exact .intro choose inside sound bound harmless (nothing_missing_iff.mp filled)
        (fun dependency depends_on => (chosen dependency depends_on).1)
        (fun dependency depends_on => (chosen dependency depends_on).2)
  · intro clear
    have all : ∀ step, Clear d.steps reasons sources failures step → ∀ item ∈ plans, item.1 = step →
        item.2.status = .ready := by
      intro step clear
      induction clear with
      | @intro step upstream inside sound bound harmless filled named depends ih =>
        rintro item mem rfl
        obtain ⟨before, after, here⟩ := List.append_of_mem mem
        refine (each before item after here).ready.mpr
          ⟨sound, fun dependency depends_on => ?_, bound, harmless, nothing_missing_iff.mpr filled⟩
        obtain ⟨other, other_mem, other_named, status⟩ := earlier before item after here dependency depends_on
        have other_there : other ∈ plans := by
          rw [here]
          exact List.mem_append_left _ other_mem
        have other_inside : other.1 ∈ d.steps := by
          rw [← same]
          exact List.mem_map_of_mem other_there
        have upstream_inside : upstream dependency ∈ d.steps := by
          cases depends dependency depends_on with
          | intro _ inside _ _ _ _ _ _ => exact inside
        have one : other.1 = upstream dependency :=
          List.inj_on_of_nodup_map accepted.stepIds other_inside upstream_inside
            (other_named.trans (named dependency depends_on).symm)
        rw [status, ih dependency depends_on other other_there one]
    exact all item.1 clear item mem rfl

end

/-! ## The answer -/

/-- What `resolve_chain` answers about the statuses. -/
structure ChainReport where
  steps : List (ChainStep × StepPlan)
  readyStepIds : List String
  blockedStepIds : List String
  failedStepIds : List String
  safeToExecute : Bool

/-- `[item["step_id"] for item in results if item["status"] == status]` -/
def ChainPlan.idsOf (plan : ChainPlan) (status : StepStatus) : List String :=
  (plan.steps.filter (·.2.status == status)).map (·.1.stepId)

def ChainPlan.report (plan : ChainPlan) : ChainReport :=
  let ready := plan.idsOf .ready
  let blocked := plan.idsOf .blocked
  let failed := plan.idsOf .failed
  ⟨plan.steps, ready, blocked, failed, !ready.isEmpty && blocked.isEmpty && failed.isEmpty⟩

/-- The ids in `step_failures`. -/
def injectedIds (stepFailures : List String) : List String := (stepFailures.map stripped).filter (· != "")

/-- The reasons why a step is not bound, where there is a lookup. -/
def lookupReasons (d : ChainDefinition) (lookup : Option EndpointLookup) (step : ChainStep) : List String :=
  match lookup with
  | some lookup => bindReasons d step (lookup step.pathid)
  | none => []

/-- What a step that is ready has: all it depends on is ready, what is required is there, and the
placeholders of its path are filled. -/
structure ReadyWell (sources : Mapping Json) (steps : List (ChainStep × StepPlan)) (item : ChainStep × StepPlan) : Prop where
  depends : ∀ dependency ∈ item.1.dependsOn, ∃ other ∈ steps, other.1.stepId = dependency ∧ other.2.status = .ready
  required : ∀ p ∈ item.1.parameters, p.required = true →
    ∃ value, valueOf sources p = some value ∧ (p.ref? = none → isEmptySource value = false)
  nonEmpty : ∀ p ∈ item.1.parameters, p.requiredNonEmpty = true →
    ∃ value, valueOf sources p = some value ∧ isEmptySource value = false
  filled : ∀ name raw, .placeholder name raw ∈ pieces item.1.pathTemplate →
    isBlank (item.2.pathValues.get? name) = false
  path : item.2.renderedPath = (renderPathTemplate item.1.pathTemplate item.2.pathValues).1

/-- Blocking is propagated. -/
structure Propagates (d : ChainDefinition) (sources : Mapping Json) (failures : List String) (report : ChainReport) :
    Prop where
  covers : report.steps.map (·.1) = d.steps
  injected : ∀ item ∈ report.steps, item.1.stepId ∈ failures → item.2.status = .failed
  ready : ∀ item ∈ report.steps, item.2.status = .ready → ReadyWell sources report.steps item
  apart : (report.readyStepIds ++ (report.blockedStepIds ++ report.failedStepIds)).Nodup
  all : ∀ id, id ∈ report.readyStepIds ++ (report.blockedStepIds ++ report.failedStepIds) ↔
    ∃ step ∈ d.steps, step.stepId = id
  safe : report.safeToExecute = true ↔ ∀ item ∈ report.steps, item.2.status = .ready

/-- No step that was injected as failed has a parameter that blocks it anyway, and no clear step
has one that must not be empty and is not there. -/
structure Undisturbed (d : ChainDefinition) (lookup : Option EndpointLookup) (sources : Mapping Json)
    (failures : List String) : Prop where
  failed : ∀ step ∈ d.steps, step.stepId ∈ failures → ∀ p ∈ step.parameters, blocksAnyway sources p = false
  nonEmpty : ∀ step, Clear d.steps (lookupReasons d lookup) sources failures step →
    ∀ p ∈ step.parameters, p.requiredNonEmpty = true → (valueOf sources p).isSome = true

section
variable {d : ChainDefinition} {lookup : Option EndpointLookup} {sources : Mapping Json} {failures : List String}

theorem idsOf_partition (plan : ChainPlan) (distinct : (plan.steps.map (·.1.stepId)).Nodup) :
    (plan.idsOf .ready ++ (plan.idsOf .blocked ++ plan.idsOf .failed)).Nodup ∧
      ∀ id, id ∈ plan.idsOf .ready ++ (plan.idsOf .blocked ++ plan.idsOf .failed) ↔
        ∃ item ∈ plan.steps, item.1.stepId = id := by
  have mem_iff : ∀ status id, id ∈ plan.idsOf status ↔
      ∃ item ∈ plan.steps, item.2.status = status ∧ item.1.stepId = id := by
    intro status id
    unfold ChainPlan.idsOf
    simp only [List.mem_map, List.mem_filter, beq_iff_eq, and_assoc]
  have nodup : ∀ status, (plan.idsOf status).Nodup := fun status =>
    List.Nodup.sublist (List.filter_sublist.map _) distinct
  have disjoint : ∀ status status', status ≠ status' → ∀ id ∈ plan.idsOf status, ∀ id' ∈ plan.idsOf status', id ≠ id' := by
    intro status status' ne id mem id' mem' same
    obtain ⟨item, inside, here, named⟩ := (mem_iff status id).mp mem
    obtain ⟨other, other_inside, there, other_named⟩ := (mem_iff status' id').mp mem'
    have one : item = other := by
      have ids : item.1.stepId = other.1.stepId := named.trans (same.trans other_named.symm)
      exact List.inj_on_of_nodup_map distinct inside other_inside ids
    exact ne (here.symm.trans (one ▸ there))
  constructor
  · rw [List.nodup_append, List.nodup_append]
    refine ⟨nodup _, ⟨nodup _, nodup _, disjoint _ _ (by decide)⟩, fun id mem id' mem' => ?_⟩
    rcases List.mem_append.mp mem' with mem' | mem'
    · exact disjoint _ _ (by decide) id mem id' mem'
    · exact disjoint _ _ (by decide) id mem id' mem'
  · intro id
    rw [List.mem_append, List.mem_append, mem_iff, mem_iff, mem_iff]
    constructor
    · rintro (⟨item, inside, -, named⟩ | ⟨item, inside, -, named⟩ | ⟨item, inside, -, named⟩) <;>
        exact ⟨item, inside, named⟩
    · rintro ⟨item, inside, named⟩
      cases status : item.2.status with
      | ready => exact .inl ⟨item, inside, status, named⟩
      | blocked => exact .inr (.inl ⟨item, inside, status, named⟩)
      | failed => exact .inr (.inr ⟨item, inside, status, named⟩)

/-- A report is safe exactly where every step is ready. -/
theorem report_safe (plan : ChainPlan) (some_step : plan.steps ≠ []) :
    plan.report.safeToExecute = true ↔ ∀ item ∈ plan.steps, item.2.status = .ready := by
  have empty_iff : ∀ status, (plan.idsOf status).isEmpty = true ↔ ∀ item ∈ plan.steps, item.2.status ≠ status := by
    intro status
    unfold ChainPlan.idsOf
    simp only [List.isEmpty_iff, List.map_eq_nil_iff, List.filter_eq_nil_iff, beq_iff_eq, ne_eq]
  unfold ChainPlan.report
  dsimp only
  rw [Bool.and_eq_true_iff, Bool.and_eq_true_iff, empty_iff, empty_iff]
  constructor
  · rintro ⟨⟨-, not_blocked⟩, not_failed⟩ item mem
    cases status : item.2.status with
    | ready => rfl
    | blocked => exact absurd status (not_blocked item mem)
    | failed => exact absurd status (not_failed item mem)
  · intro ready
    refine ⟨⟨?_, fun item mem => by rw [ready item mem]; decide⟩, fun item mem => by rw [ready item mem]; decide⟩
    obtain ⟨item, mem⟩ := List.exists_mem_of_ne_nil _ some_step
    rw [Bool.not_eq_true', Bool.eq_false_iff, ne_eq, empty_iff]
    exact fun none_ => none_ item mem (ready item mem)

theorem readyWell_of_harmless {steps : List (ChainStep × StepPlan)} {item : ChainStep × StepPlan}
    {statuses : Mapping StepStatus} {reasons : List String}
    (resolved : Resolved reasons failures sources statuses item.1 item.2) (ready : item.2.status = .ready)
    (depends : ∀ dependency ∈ item.1.dependsOn, ∃ other ∈ steps, other.1.stepId = dependency ∧ other.2.status = .ready)
    (there : ∀ p ∈ item.1.parameters, p.requiredNonEmpty = true → (valueOf sources p).isSome = true) :
    ReadyWell sources steps item := by
  obtain ⟨-, -, -, harmless, missing⟩ := resolved.ready.mp ready
  refine ⟨depends, fun p mem required => ?_, fun p mem nonEmpty => ?_, ?_, ?_⟩
  · have kept := harmless p mem
    unfold blocks blocksAnyway at kept
    cases source : p.source with
    | constant value =>
      rw [source] at kept
      refine ⟨value, by rw [valueOf, resolvedValue, source], fun _ => ?_⟩
      rw [required] at kept
      exact kept
    | upstreamRef ref requiredNonEmpty =>
      rw [source] at kept
      cases found : valueOf sources p with
      | none =>
        rw [found] at kept
        exact absurd (required.symm.trans kept) (by decide)
      | some value =>
        refine ⟨value, rfl, fun none_ => ?_⟩
        rw [ChainParameter.ref?, source] at none_
        cases none_
  · obtain ⟨value, found⟩ := Option.isSome_iff_exists.mp (there p mem nonEmpty)
    refine ⟨value, found, ?_⟩
    have kept := harmless p mem
    unfold blocks blocksAnyway at kept
    unfold ChainParameter.requiredNonEmpty at nonEmpty
    cases source : p.source with
    | constant value =>
      rw [source] at nonEmpty
      cases nonEmpty
    | upstreamRef ref requiredNonEmpty =>
      rw [source] at kept nonEmpty
      rw [found] at kept
      dsimp only at kept nonEmpty
      rw [nonEmpty] at kept
      exact kept
  · rw [resolved.values]
    exact nothing_missing_iff.mp missing
  · rw [resolved.values]
    exact resolved.path

/-- **Propagation of blocking.** A resolved chain propagates it exactly where nothing disturbs it. -/
theorem resolveChain_propagates_iff {definition : ChainDefinition} (accepted : normalizeChainDefinition definition = .ok d)
    (sources : Mapping Json) (lookup : Option EndpointLookup) (stepFailures : List String) :
    (∃ plan, resolveChain definition sources lookup stepFailures = .ok plan ∧
      Propagates d sources (injectedIds stepFailures) plan.report) ↔
      Undisturbed d lookup sources (injectedIds stepFailures) := by
  have sound := normalizeChainDefinition_accepted accepted
  have parses : ∀ step ∈ d.steps, ∀ p ∈ step.parameters, ∀ ref, p.ref? = some ref →
      ∃ parsed, parseUpstreamRef ref = .ok parsed := by
    intro step mem p p_mem ref some_
    obtain ⟨before, after, here⟩ := List.append_of_mem mem
    obtain ⟨response, segments, parse, -⟩ := (sound.refers here).targets p p_mem ref some_
    exact ⟨_, parse⟩
  obtain ⟨plans, resolved⟩ : ∃ plans,
      resolveSteps (lookupReasons d lookup) sources (injectedIds stepFailures) .empty d.steps = .ok plans :=
    resolveSteps_total parses .empty
  have answer : resolveChain definition sources lookup stepFailures =
      .ok ⟨plans, !plans.isEmpty && plans.all fun s => s.2.status == StepStatus.ready⟩ := by
    unfold resolveChain
    rw [accepted, ok_bind]
    dsimp only
    change (do
      let steps ← resolveSteps (lookupReasons d lookup) sources (injectedIds stepFailures) .empty d.steps
      return (⟨steps, !steps.isEmpty && steps.all fun s => s.2.status == StepStatus.ready⟩ : ChainPlan)) = _
    rw [resolved]
    rfl
  obtain ⟨same, each⟩ := resolveSteps_each resolved
  have ids : plans.map (·.1.stepId) = d.steps.map (·.stepId) := by
    rw [← same, List.map_map]
    rfl
  have some_plan : plans ≠ [] := by
    rintro rfl
    exact sound.steps same.symm
  have clear_iff : ∀ item ∈ plans, item.2.status = .ready ↔
      Clear d.steps (lookupReasons d lookup) sources (injectedIds stepFailures) item.1 :=
    fun item mem => ready_iff_clear sound resolved mem
  constructor
  · rintro ⟨plan, planned, propagates⟩
    rw [answer] at planned
    cases Except.ok.inj planned
    constructor
    · intro step mem injected p p_mem
      rw [← same] at mem
      obtain ⟨item, item_mem, rfl⟩ := List.mem_map.mp mem
      obtain ⟨before, after, here⟩ := List.append_of_mem item_mem
      have status := (each before item after here).failed injected
      rw [propagates.injected item item_mem injected] at status
      cases blocked : item.1.parameters.any (blocksAnyway sources) with
      | true =>
        rw [blocked] at status
        cases status
      | false => exact Bool.eq_false_iff.mpr (List.any_eq_false.mp blocked p p_mem)
    · intro step clear p p_mem nonEmpty
      have mem : step ∈ plans.map (·.1) := by
        rw [same]
        cases clear with
        | intro _ inside _ _ _ _ _ _ => exact inside
      obtain ⟨item, item_mem, rfl⟩ := List.mem_map.mp mem
      have ready := propagates.ready item item_mem ((clear_iff item item_mem).mpr clear)
      obtain ⟨value, found, -⟩ := ready.nonEmpty p p_mem nonEmpty
      rw [found]
      rfl
  · rintro ⟨failed, nonEmpty⟩
    obtain ⟨apart, all⟩ := idsOf_partition ⟨plans, _⟩ (ids ▸ sound.stepIds)
    refine ⟨_, answer, same, ?_, ?_, apart, ?_, report_safe _ some_plan⟩
    · intro item mem injected
      obtain ⟨before, after, here⟩ := List.append_of_mem mem
      have inside : item.1 ∈ d.steps := by
        rw [← same]
        exact List.mem_map_of_mem mem
      have none_ : item.1.parameters.any (blocksAnyway sources) = false := by
        rw [List.any_eq_false]
        exact fun p p_mem => Bool.eq_false_iff.mp (failed item.1 inside injected p p_mem)
      rw [(each before item after here).failed injected, none_]
      rfl
    · intro item mem ready
      obtain ⟨before, after, here⟩ := List.append_of_mem mem
      have clear := (clear_iff item mem).mp ready
      refine readyWell_of_harmless (each before item after here) ready ?_ (nonEmpty item.1 clear)
      intro dependency depends
      cases clear with
      | intro upstream _ _ _ _ _ named clears =>
        have upstream_mem : upstream dependency ∈ plans.map (·.1) := by
          rw [same]
          cases clears dependency depends with
          | intro _ inside _ _ _ _ _ _ => exact inside
        obtain ⟨other, other_mem, other_same⟩ := List.mem_map.mp upstream_mem
        refine ⟨other, other_mem, ?_, (clear_iff other other_mem).mpr ?_⟩
        · rw [other_same]
          exact named dependency depends
        · rw [other_same]
          exact clears dependency depends
    · intro id
      refine (all id).trans ⟨?_, ?_⟩
      · rintro ⟨item, mem, named⟩
        refine ⟨item.1, ?_, named⟩
        rw [← same]
        exact List.mem_map_of_mem mem
      · rintro ⟨step, mem, named⟩
        rw [← same] at mem
        obtain ⟨item, item_mem, rfl⟩ := List.mem_map.mp mem
        exact ⟨item, item_mem, named⟩

end

/-- A step with a required reference to the one before. -/
def referringChain : ChainDefinition where
  name := "abc"
  steps := [
    { stepId := "a", responseRef := "r", pathid := 1, method := "GET", pathTemplate := "/x" },
    { stepId := "b", responseRef := "s", pathid := 2, method := "GET", pathTemplate := "/y", dependsOn := ["a"],
      parameters := [{ name := "q", position := .query, required := true, source := .upstreamRef "r.id" false }] }]

theorem referringChain_propagates :
    (∃ plan, resolveChain referringChain .empty none ["a"] = .ok plan ∧
      Propagates referringChain .empty (injectedIds ["a"]) plan.report) ↔
      Undisturbed referringChain none .empty (injectedIds ["a"]) :=
  resolveChain_propagates_iff (by decide +kernel) .empty none ["a"]

/-- The step that was injected as failed is blocked, since its reference is not found. -/
theorem injected_blocked : normalizeChainDefinition referringChain = .ok referringChain ∧
    ¬ ∃ plan, resolveChain referringChain .empty none ["b"] = .ok plan ∧
      Propagates referringChain .empty (injectedIds ["b"]) plan.report := by
  refine ⟨by decide +kernel, ?_⟩
  rintro ⟨plan, planned, propagates⟩
  have run : ((resolveChain referringChain .empty none ["b"]).toOption.any fun plan =>
      plan.steps.any fun item => item.1.stepId == "b" && item.2.status != .failed) = true := by decide +kernel
  rw [planned] at run
  obtain ⟨item, mem, fails⟩ := List.any_eq_true.mp run
  obtain ⟨named, status⟩ := Bool.and_eq_true_iff.mp fails
  have injected : item.1.stepId ∈ injectedIds ["b"] := by
    rw [beq_iff_eq.mp named]
    decide +kernel
  rw [propagates.injected item mem injected] at status
  cases status

end ApiManger.Chain
