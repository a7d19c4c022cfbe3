import ApiManger.Chain.Replay

/-!
# What a replay sends

A step is sent only after the steps it depends on succeeded: a failed or blocked step
is not ready in the plan of a later one, and neither is what depends on it. Its
request is filled from a dictionary by the names of its parameters, and only the url is
filled. A parameter is carried where it is declared exactly where it is placed: the
last of its name in a position of the url that is there to be filled, or of the asset's
own request.
-/

namespace ApiManger.Chain
open Python Account Execution

/-! ## The parameters of a plan -/

def lastOf (parameters : List ChainParameter) (name : String) : Option ChainParameter :=
  parameters.reverse.find? (·.name == name)

/-- The value of a parameter, where it is constant or found. -/
def valueOf (sources : Mapping Json) (p : ChainParameter) : Option Json :=
  match resolvedValue sources p with
  | .ok value => value
  | .error _ => none

theorem lastOf_cons (p : ChainParameter) (rest : List ChainParameter) (name : String) :
    lastOf (p :: rest) name = (lastOf rest name).or (if p.name = name then some p else none) := by
  unfold lastOf
  rw [List.reverse_cons, List.find?_append, List.find?_singleton]
  simp only [beq_iff_eq]

theorem block_resolvedParameters (plan : StepPlan) (code detail : String) :
    (plan.block code detail).resolvedParameters = plan.resolvedParameters := rfl

theorem block_status (plan : StepPlan) (code detail : String) : (plan.block code detail).status = .blocked := rfl

variable {sources : Mapping Json} {plan : StepPlan} {failures : List String} {statuses : Mapping StepStatus}
  {step : ChainStep} {s : ReplayState}

/-- What a turn over a parameter does: its entry is on record, and no plan becomes ready. -/
theorem resolveParameter_ok {after : StepPlan} {p : ChainParameter}
    (turn : resolveParameter sources plan p = .ok after) :
    resolvedValue sources p = .ok (valueOf sources p) ∧
      after.resolvedParameters = plan.resolvedParameters.set p.name (p.entry (valueOf sources p)) ∧
      (after.status = .ready → plan.status = .ready) := by
  unfold resolveParameter at turn
  obtain ⟨value, resolved, turn⟩ := bind_eq_ok.mp turn
  have value_eq : valueOf sources p = value := by rw [valueOf, resolved]
  rw [value_eq]
  refine ⟨resolved, ?_⟩
  split at turn
  · cases Except.ok.inj turn
    refine ⟨?_, ?_⟩
    · split <;> rfl
    · split
      · exact fun ready => by cases ready
      · exact id
  · cases Except.ok.inj turn
    refine ⟨?_, ?_⟩
    · split <;> rfl
    · split
      · exact fun ready => by cases ready
      · exact id
  · cases Except.ok.inj turn
    refine ⟨?_, ?_⟩
    · split <;> rfl
    · split
      · exact fun ready => by cases ready
      · exact id

/-- The entry of a name is the one of the last parameter that has it. -/
theorem resolveParameters_ok {parameters : List ChainParameter} {after : StepPlan}
    (folded : parameters.foldlM (resolveParameter sources) plan = .ok after) :
    (∀ name, after.resolvedParameters.get? name =
      ((lastOf parameters name).map fun p => p.entry (valueOf sources p)).or (plan.resolvedParameters.get? name)) ∧
      (after.status = .ready → plan.status = .ready) := by
  induction parameters generalizing plan with
  | nil =>
    cases Except.ok.inj folded
    exact ⟨fun _ => rfl, id⟩
  | cons p rest ih =>
    rw [List.foldlM_cons] at folded
    obtain ⟨middle, turn, folded⟩ := bind_eq_ok.mp folded
    obtain ⟨-, recorded, kept⟩ := resolveParameter_ok turn
    obtain ⟨others, kept_after⟩ := ih folded
    refine ⟨fun name => ?_, fun ready => kept (kept_after ready)⟩
    rw [others, lastOf_cons, recorded, Mapping.get?_set]
    by_cases here : p.name = name
    · rw [if_pos here, if_pos here]
      cases lastOf rest name <;> rfl
    · rw [if_neg here, if_neg here, Option.or_none]

/-! ## Ready steps -/

/-- What a step that starts ready has behind it. -/
theorem startPlan_ready {reasons : List String}
    (ready : (startPlan reasons failures statuses step).status = .ready) :
    step.stepId ∉ failures ∧ ∀ dependency ∈ step.dependsOn, statuses.get? dependency = some .ready := by
  unfold startPlan at ready
  dsimp only at ready
  by_cases failed : failures.contains step.stepId = true
  · rw [if_pos failed, if_neg (by simp)] at ready
    cases ready
  rw [if_neg failed] at ready
  by_cases waits : (!(step.dependsOn.filter fun dependency => statuses.get? dependency != some .ready).isEmpty) = true
  · rw [if_pos waits, if_neg (by simp [block_status])] at ready
    cases ready
  refine ⟨fun mem => failed (List.contains_iff_mem.mpr mem), fun dependency mem => ?_⟩
  by_contra blocking
  refine waits ?_
  rw [Bool.not_eq_true', List.isEmpty_eq_false_iff_exists_mem]
  exact ⟨dependency, List.mem_filter.mpr ⟨mem, bne_iff_ne.mpr blocking⟩⟩

/-- What a step has in its plan. -/
theorem resolveStep_ok {reasons : List String} (planned : resolveStep reasons sources failures statuses step = .ok plan) :
    (∀ name, plan.resolvedParameters.get? name =
      (lastOf step.parameters name).map fun p => p.entry (valueOf sources p)) ∧
    (plan.status = .ready →
      step.stepId ∉ failures ∧ ∀ dependency ∈ step.dependsOn, statuses.get? dependency = some .ready) := by
  unfold resolveStep at planned
  obtain ⟨folded, folds, planned⟩ := bind_eq_ok.mp planned
  cases Except.ok.inj planned
  obtain ⟨entries, kept⟩ := resolveParameters_ok folds
  have start_empty (name : String) :
      (startPlan reasons failures statuses step).resolvedParameters.get? name = none := by
    have none_yet : (startPlan reasons failures statuses step).resolvedParameters = .empty := by
      unfold startPlan
      dsimp only
      split <;> split <;> first | rfl | split <;> rfl
    rw [none_yet]
    rfl
  constructor
  · intro name
    have entry := entries name
    rw [start_empty, Option.or_none] at entry
    rw [← entry]
    split <;> rfl
  · intro ready
    refine startPlan_ready (kept ?_)
    split at ready
    · cases ready
    · exact ready

/-- The plan of a step among those of its definition: steps that are ready are not among the failures. -/
theorem resolveSteps_ok {reasons : ChainStep → List String} {steps : List ChainStep} {plans : List (ChainStep × StepPlan)}
    (sound : ∀ id, statuses.get? id = some .ready → id ∉ failures)
    (resolved : resolveSteps reasons sources failures statuses steps = .ok plans) :
    ∀ item ∈ plans, item.1 ∈ steps ∧ ∃ before : Mapping StepStatus,
      (∀ id, before.get? id = some .ready → id ∉ failures) ∧
      resolveStep (reasons item.1) sources failures before item.1 = .ok item.2 := by
  induction steps generalizing statuses plans with
  | nil =>
    cases Except.ok.inj resolved
    exact fun _ mem => absurd mem List.not_mem_nil
  | cons step rest ih =>
    rw [resolveSteps] at resolved
    obtain ⟨plan, planned, resolved⟩ := bind_eq_ok.mp resolved
    obtain ⟨others, later, resolved⟩ := bind_eq_ok.mp resolved
    cases Except.ok.inj resolved
    have sound_after : ∀ id, (statuses.set step.stepId plan.status).get? id = some .ready → id ∉ failures := by
      intro id ready
      rw [Mapping.get?_set] at ready
      split at ready
      · next here =>
        rw [← here]
        exact ((resolveStep_ok planned).2 (Option.some.inj ready)).1
      · exact sound id ready
    intro item mem
    rcases List.mem_cons.mp mem with rfl | mem
    · exact ⟨List.mem_cons_self, statuses, sound, planned⟩
    · obtain ⟨inside, planned_there⟩ := ih sound_after later item mem
      exact ⟨List.mem_cons_of_mem _ inside, planned_there⟩

/-! ## Requests -/

/-- The value that goes into the url for a name: the one of the last parameter of that name, if that has the
position. -/
def declared (position : Position) (step : ChainStep) (sources : Mapping Json) (name : String) : Option Json :=
  (lastOf step.parameters name).bind fun p => if p.position = position then valueOf sources p else none

/-- A step is prepared from its parameters, its endpoint and its asset. -/
structure PreparedFrom (call : ChainCall) (step : ChainStep) (sources : Mapping Json) (prepared : PreparedStep) :
    Prop where
  path : ∀ name, prepared.pathValues.get? name = declared .path step sources name
  query : ∀ name, prepared.queryValues.get? name = declared .query step sources name
  template : urlTemplate step ((call.outside.endpoint step.pathid).getD {}) = .ok prepared.template
  url : ∃ rendered, stepUrl step prepared.template prepared.pathValues = .ok rendered ∧
    prepared.url = mergeQuery rendered prepared.queryValues
  composed : call.outside.compose step = .ok (some prepared.composed)
  context : accountContextOf call step = .ok prepared.accountContext

theorem prepareStep_ok {call : ChainCall}
    {prepared : PreparedStep} (entries : ∀ name, plan.resolvedParameters.get? name =
      (lastOf step.parameters name).map fun p => p.entry (valueOf sources p))
    (prepares : prepareStep call step plan = .ok prepared) : PreparedFrom call step sources prepared := by
  have placed (position : Position) (name : String) : (plan.resolvedParameters.filterMapValues fun entry =>
      if entry.position = position then entry.value else none).get? name = declared position step sources name := by
    rw [Mapping.get?_filterMapValues, entries, declared]
    cases lastOf step.parameters name <;> rfl
  unfold prepareStep at prepares
  obtain ⟨pathValues, paths, prepares⟩ := bind_eq_ok.mp prepares
  obtain ⟨context, resolves, prepares⟩ := bind_eq_ok.mp prepares
  obtain ⟨found, composes, prepares⟩ := bind_eq_ok.mp prepares
  have path_eq : pathValues = plan.resolvedParameters.filterMapValues fun entry =>
      if entry.position = .path then entry.value else none := by
    unfold pathValuesOf at paths
    obtain ⟨-, paths⟩ := raised_or paths
    exact (Except.ok.inj paths).symm
  cases found with
  | none => nomatch prepares
  | some composed =>
    obtain ⟨template, templates, prepares⟩ := bind_eq_ok.mp prepares
    obtain ⟨rendered, renders, prepares⟩ := bind_eq_ok.mp prepares
    split at prepares
    · cases Except.ok.inj prepares
      refine ⟨fun name => ?_, fun name => placed .query name, templates, ⟨rendered, renders, rfl⟩, composes, resolves⟩
      dsimp only
      rw [path_eq]
      exact placed .path name
    · nomatch prepares

/-- The plan a step is taken with: none of the steps it depends on is among the failures. -/
theorem planStep_ok {call : ChainCall} {d : ChainDefinition}
    (accepted : Accepted d) (mem : step ∈ d.steps) (listed : ∀ id ∈ s.failures, stripped id = id ∧ id ≠ "")
    (planned : planStep call d s step = .ok plan) :
    (∀ name, plan.resolvedParameters.get? name =
      (lastOf step.parameters name).map fun p => p.entry (valueOf s.captured p)) ∧
    (plan.status = .ready → ∀ dependency ∈ step.dependsOn, dependency ∉ s.failures) := by
  unfold planStep at planned
  obtain ⟨chain, resolved, planned⟩ := bind_eq_ok.mp planned
  split at planned
  · next item found =>
    cases Except.ok.inj planned
    unfold resolveChain at resolved
    rw [accepted.again, names_read listed] at resolved
    obtain ⟨same, again, resolved⟩ := bind_eq_ok.mp resolved
    cases Except.ok.inj again
    obtain ⟨plans, resolves, resolved⟩ := bind_eq_ok.mp resolved
    cases Except.ok.inj resolved
    obtain ⟨inside, statuses, sound, planned_there⟩ :=
      resolveSteps_ok (fun id ready => by rw [Mapping.get?_empty] at ready; nomatch ready) resolves item
        (List.mem_of_find?_eq_some found)
    have id_eq : item.1.stepId = step.stepId := by simpa using List.find?_some found
    have step_eq : item.1 = step := List.inj_on_of_nodup_map accepted.stepIds inside mem id_eq
    rw [step_eq] at planned_there
    obtain ⟨entries, ready_after⟩ := resolveStep_ok planned_there
    exact ⟨entries, fun ready dependency depends => sound dependency ((ready_after ready).2 dependency depends)⟩
  · nomatch planned

/-! ## The loop -/

/-- Each request is sent after the steps its step depends on succeeded. -/
def SentInOrder (sent : List SentStep) : Prop :=
  ∀ before t, before ++ [t] <+: sent →
    ∀ dependency ∈ t.step.dependsOn, ∃ u ∈ before, u.step.stepId = dependency ∧ u.succeeded = true

/-- What holds of the requests that were sent. -/
structure SentWell (call : ChainCall) (sent : List SentStep) : Prop where
  inOrder : SentInOrder sent
  prepared : ∀ t ∈ sent, PreparedFrom call t.step t.sources t.prepared ∧ t.prepared.kwargs call = .ok t.kwargs

/-- How far the loop is: each step that is done failed, or was sent and succeeded. -/
structure Progress (call : ChainCall) (done : List ChainStep) (s : ReplayState) : Prop where
  listed : ∀ id ∈ s.failures, stripped id = id ∧ id ≠ ""
  covered : ∀ step ∈ done, step.stepId ∈ s.failures ∨ ∃ t ∈ s.sent, t.step = step ∧ t.succeeded = true
  sent : SentWell call s.sent

/-- A step that is among the failures is done. -/
theorem Progress.failed {call : ChainCall} {done : List ChainStep} {s after : ReplayState} {step : ChainStep}
    (progress : Progress call done s) (read : stripped step.stepId = step.stepId ∧ step.stepId ≠ "")
    (failures : after.failures = s.failures ++ [step.stepId]) (kept : s.sent <+: after.sent)
    (sent : SentWell call after.sent) : Progress call (done ++ [step]) after where
  sent := sent
  listed := by
    rw [failures]
    intro id mem
    rcases List.mem_append.mp mem with mem | mem
    · exact progress.listed id mem
    · rw [List.mem_singleton.mp mem]
      exact read
  covered := by
    intro other mem
    rw [failures]
    rcases List.mem_append.mp mem with mem | mem
    · rcases progress.covered other mem with failed | ⟨t, inside, same⟩
      · exact .inl (List.mem_append_left _ failed)
      · exact .inr ⟨t, kept.subset inside, same⟩
    · rw [List.mem_singleton.mp mem]
      exact .inl (List.mem_append_right _ (List.mem_singleton_self _))

theorem Progress.succeeded {call : ChainCall} {done : List ChainStep} {s after : ReplayState} {t : SentStep}
    (progress : Progress call done s) (failures : after.failures = s.failures) (kept : after.sent = s.sent ++ [t])
    (succeeded : t.succeeded = true) (sent : SentWell call after.sent) : Progress call (done ++ [t.step]) after where
  sent := sent
  listed := by
    rw [failures]
    exact progress.listed
  covered := by
    intro other mem
    rw [failures, kept]
    rcases List.mem_append.mp mem with mem | mem
    · rcases progress.covered other mem with failed | ⟨u, inside, same⟩
      · exact .inl failed
      · exact .inr ⟨u, List.mem_append_left _ inside, same⟩
    · rw [List.mem_singleton.mp mem]
      exact .inr ⟨t, List.mem_append_right _ (List.mem_singleton_self _), rfl, succeeded⟩

/-- A request that is sent next. -/
theorem SentWell.send {call : ChainCall} {sent : List SentStep} {t : SentStep} (well : SentWell call sent)
    (ready : ∀ dependency ∈ t.step.dependsOn, ∃ u ∈ sent, u.step.stepId = dependency ∧ u.succeeded = true)
    (prepared : PreparedFrom call t.step t.sources t.prepared) (kwargs : t.prepared.kwargs call = .ok t.kwargs) :
    SentWell call (sent ++ [t]) where
  inOrder := by
    intro before u is_prefix
    rcases List.prefix_concat_iff.mp is_prefix with same | earlier
    · obtain ⟨rfl, last⟩ := List.append_inj' same rfl
      cases List.singleton_inj.mp last
      exact ready
    · exact well.inOrder before u earlier
  prepared := by
    intro u mem
    rcases List.mem_append.mp mem with mem | mem
    · exact well.prepared u mem
    · rw [List.mem_singleton.mp mem]
      exact ⟨prepared, kwargs⟩

variable {call : ChainCall} {d : ChainDefinition} {key : String → String} {taken : List String}

theorem close_sent (s : ReplayState) (step : ChainStep) (reply : Reply) : (s.close step reply).sent = s.sent := by
  unfold ReplayState.close
  dsimp only
  split <;> rfl

theorem close_failures (s : ReplayState) (step : ChainStep) (reply : Reply) : (s.close step reply).failures =
    if reply.succeeded then s.failures else s.failures ++ [step.stepId] := by
  unfold ReplayState.close
  dsimp only
  split <;> rfl

/-- One turn of the loop. -/
theorem replayStep_progress (accepted : Accepted d) {done rest : List ChainStep}
    (here : d.steps = done ++ step :: rest) (progress : Progress call done s) :
    SentWell call (replayStep call d key taken s step).1.sent ∧
      ((replayStep call d key taken s step).2 = none →
        Progress call (done ++ [step]) (replayStep call d key taken s step).1) := by
  have mem : step ∈ d.steps := here ▸ List.mem_append_right _ List.mem_cons_self
  have read := accepted.read step mem
  unfold replayStep
  cases planned : planStep call d s step with
  | error e => exact ⟨progress.sent, nofun⟩
  | ok plan =>
    obtain ⟨entries, sound⟩ := planStep_ok accepted mem progress.listed planned
    by_cases ready : plan.status = .ready
    swap
    · dsimp only
      rw [if_pos ready]
      exact ⟨progress.sent, fun _ => progress.failed read rfl (List.prefix_refl _) progress.sent⟩
    dsimp only
    rw [if_neg (not_not.mpr ready)]
    cases prepares : prepareStep call step plan with
    | error e => exact ⟨progress.sent, nofun⟩
    | ok prepared =>
      dsimp only
      split
      · exact ⟨progress.sent, nofun⟩
      have prepared_from := prepareStep_ok entries prepares
      -- the steps it depends on are done, and none of them failed
      have succeeded_before : ∀ dependency ∈ step.dependsOn,
          ∃ u ∈ s.sent, u.step.stepId = dependency ∧ u.succeeded = true := by
        intro dependency depends
        obtain ⟨upstream, earlier, rfl⟩ := accepted.ordered done step rest here dependency depends
        rcases progress.covered upstream earlier with failed | ⟨u, inside, rfl, ok⟩
        · exact absurd failed (sound ready _ depends)
        · exact ⟨u, inside, rfl, ok⟩
      unfold recordStep replaySnapshot
      cases arguments : prepared.kwargs call with
      | error e =>
        dsimp only
        split
        · exact ⟨progress.sent, nofun⟩
        · have same_sent : ((s.save (key step.stepId)).close step ⟨false, .null⟩).sent = s.sent := close_sent _ _ _
          rw [same_sent]
          refine ⟨progress.sent, fun _ => progress.failed read ?_ ?_ ?_⟩
          · rw [close_failures]
            rfl
          · rw [same_sent]
          · rw [same_sent]
            exact progress.sent
      | ok kwargs =>
        have well : SentWell call (s.sent ++
            [⟨step, s.captured, prepared, kwargs, (call.outside.reply step).succeeded⟩]) :=
          progress.sent.send succeeded_before prepared_from arguments
        dsimp only
        split
        · exact ⟨well, nofun⟩
        · have sent_eq := close_sent ((s.save (key step.stepId)).send step prepared kwargs
            (call.outside.reply step).succeeded) step (call.outside.reply step)
          rw [sent_eq]
          refine ⟨well, fun _ => ?_⟩
          cases ok : (call.outside.reply step).succeeded with
          | true =>
            refine progress.succeeded (t := ⟨step, s.captured, prepared, kwargs, true⟩) ?_ ?_ rfl ?_
            · rw [close_failures, if_pos ok]
              rfl
            · rw [close_sent]
              rfl
            · rw [close_sent, ← ok]
              exact well
          | false =>
            refine progress.failed read ?_ ?_ ?_
            · rw [close_failures, if_neg (by rw [ok]; exact Bool.false_ne_true)]
              rfl
            · rw [close_sent]
              exact List.prefix_append _ _
            · rw [close_sent, ← ok]
              exact well

/-- The whole loop. -/
theorem replaySteps_well (accepted : Accepted d) {done steps rest : List ChainStep}
    (here : d.steps = done ++ (steps ++ rest)) (progress : Progress call done s) :
    SentWell call (replaySteps call d key taken s steps).1.sent := by
  induction steps generalizing done s with
  | nil => exact progress.sent
  | cons step others ih =>
    obtain ⟨well, goes_on⟩ : SentWell call (replayStep call d key taken s step).1.sent ∧
        ((replayStep call d key taken s step).2 = none →
          Progress call (done ++ [step]) (replayStep call d key taken s step).1) :=
      replayStep_progress accepted here progress
    rw [replaySteps_cons]
    cases raised : (replayStep call d key taken s step).2 with
    | none =>
      dsimp only
      refine ih ?_ (goes_on raised)
      rw [here, List.append_assoc]
      rfl
    | some e =>
      dsimp only
      exact well

/-- **Order and origin.** Every request of a replay comes after the steps its step depends on, and is made of its
parameters, its endpoint and its asset. -/
theorem replayChainLive_well (sha256 : ChainDefinition → String) (call : ChainCall) (store : ChainStore) :
    SentWell call (replayChainLive sha256 call store).2.sent := by
  unfold replayChainLive
  split
  · exact ⟨fun before t is_prefix => absurd (List.prefix_nil.mp is_prefix) (by simp),
      fun t mem => absurd mem List.not_mem_nil⟩
  · next d checked =>
    have accepted : Accepted d := by
      unfold checkCall at checked
      obtain ⟨-, checked⟩ := raised_or checked
      obtain ⟨same, normalized, checked⟩ := bind_eq_ok.mp checked
      obtain ⟨-, checked⟩ := raised_or checked
      split at checked
      · nomatch checked
      · cases Except.ok.inj checked
        exact normalizeChainDefinition_accepted normalized
    have here : d.steps = [] ++ (stepsOf call d ++ d.steps.drop _) := (List.take_append_drop _ _).symm
    refine replaySteps_well accepted here ?_
    refine ⟨fun _ mem => absurd mem List.not_mem_nil, fun _ mem => absurd mem List.not_mem_nil, ?_⟩
    exact ⟨fun before t is_prefix => absurd (List.prefix_nil.mp is_prefix) (by simp),
      fun t mem => absurd mem List.not_mem_nil⟩

end ApiManger.Chain
