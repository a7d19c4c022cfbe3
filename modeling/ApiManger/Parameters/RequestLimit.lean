import ApiManger.Parameters.Schedule

/-!
# The limit of a run

The plan of a pair may try every host of the environment that its profiles allow, as
far as its own budget goes, while the estimate counts two or three requests for the
pair. The run stays within the limit of its environment, whatever the hosts do, where
the most requests of all its pairs do.
-/

namespace ApiManger.Parameters
open Python

/-! ## What a plan is made of -/

/-- How many hosts of the environment a profile allows; the selected host stands in where there is none. -/
def hostCount (environment : ProjectEnvironment) (profile : ValidationProfile) : ℕ :=
  let allowed := (profile.allowedHosts.map normalizeHost).filter (· != "")
  max 1 ((baseByHost environment).filter fun o => allowed.isEmpty || allowed.contains o.host).length

namespace BatchRequest
variable (b : BatchRequest) (store : ValidationStore)

/-- Whether the consumer of a group changes something. -/
def groupMutates (group : List ParameterRelation) : Bool :=
  group.head?.any fun primary => match store.requestTemplate primary.reqPathid b.consumerProfile with
    | .ok template => mutationMethods.contains (upper template.method)
    | .error _ => false

def groupMost (group : List ParameterRelation) : ℕ :=
  mostRequestsWithin b.caseBudget.toNat
    (if group.any fun r => (b.manualValues.lookup r.id).isNone then hostCount b.environment b.sourceProfile else 0)
    (hostCount b.environment b.consumerProfile) (if b.groupMutates store group then 1 else 0)

/-- The most requests of all pairs. -/
def worstCase (relations : List ParameterRelation) : ℕ :=
  ((groupByPair relations).map fun g => b.groupMost store g.2).sum

def automaticLimit : Int := (environmentExecutionPolicy (some b.environment)).autoRequestLimit

end BatchRequest

/-- The business requests of a run whose checkpoints are each executed once. -/
def ScheduledBatch.requests (run : ScheduledBatch) (answers : ℕ → ℕ → Attempt) : ℕ :=
  (run.plans.mapIdx fun i p => businessRequests p (answers i)).sum

/-! ## One plan -/

namespace BatchRequest
variable {b : BatchRequest} {store : ValidationStore} {group relations : List ParameterRelation}
  {plan : ValidationPlan} {run : ScheduledBatch}

theorem caseBudget_pos : 1 ≤ b.caseBudget := by
  unfold caseBudget
  omega

/-- The candidate hosts are as many as the environment and the profile allow, in whatever order. -/
theorem caseHosts_length (profile : ValidationProfile) (pathid : Int) (selected : HostOption) :
    (b.caseHosts store profile pathid selected).length = hostCount b.environment profile := by
  have sorted := List.length_insertionSort
    (fun a c : HostOption =>
      hostScore (store.projectEndpoint profile.projectId pathid) b.environment selected.host c.host <
          hostScore (store.projectEndpoint profile.projectId pathid) b.environment selected.host a.host ∨
        hostScore (store.projectEndpoint profile.projectId pathid) b.environment selected.host a.host =
          hostScore (store.projectEndpoint profile.projectId pathid) b.environment selected.host c.host ∧
        a.host ≤ c.host)
    ((baseByHost b.environment).filter fun o =>
      ((profile.allowedHosts.map normalizeHost).filter (· != "")).isEmpty ||
        ((profile.allowedHosts.map normalizeHost).filter (· != "")).contains o.host)
  unfold caseHosts hostCount
  dsimp only
  split
  · next none =>
    rw [List.isEmpty_iff, ← List.length_eq_zero_iff] at none
    unfold hostCandidates at none
    rw [List.length_singleton, ← sorted]
    simp only at none ⊢
    omega
  · next some =>
    rw [List.isEmpty_iff, ← List.length_eq_zero_iff] at some
    unfold hostCandidates at some ⊢
    simp only at some ⊢
    omega

/-- What a plan has from the batch. -/
structure PlanOf (b : BatchRequest) (store : ValidationStore) (group : List ParameterRelation)
    (plan : ValidationPlan) : Prop where
  grouped : group ≠ []
  relations : plan.relations = b.mappings group
  sourceHosts : plan.sourceHosts.length = min b.caseBudget.toNat (hostCount b.environment b.sourceProfile)
  consumerHosts : plan.consumerHosts.length = min b.caseBudget.toNat (hostCount b.environment b.consumerProfile)
  mutates : plan.mutates = b.groupMutates store group
  requestBudget : plan.requestBudget = b.caseBudget
  environmentRequestLimit : plan.environmentRequestLimit = b.automaticLimit
  approvedLargeRun : plan.approvedLargeRun = b.approvedLargeRun

theorem take_length (options : List HostOption) : (options.take b.caseBudget.toNat).length =
    min b.caseBudget.toNat options.length := List.length_take

theorem createValidationCaseSnapshot_ok (created : b.createValidationCaseSnapshot store group = .ok plan) :
    PlanOf b store group plan := by
  cases group with
  | nil => nomatch created
  | cons primary rest =>
    unfold createValidationCaseSnapshot at created
    dsimp only at created
    obtain ⟨-, created⟩ := raised_or created
    obtain ⟨-, created⟩ := raised_or created
    obtain ⟨-, created⟩ := raised_or created
    obtain ⟨-, created⟩ := raised_or created
    obtain ⟨source, -, created⟩ := bind_eq_ok.1 created
    obtain ⟨consumer, template, created⟩ := bind_eq_ok.1 created
    obtain ⟨-, created⟩ := raised_or created
    obtain ⟨-, created⟩ := raised_or created
    obtain ⟨-, created⟩ := raised_or created
    obtain ⟨-, created⟩ := raised_or created
    obtain ⟨sourceSelected, -, created⟩ := bind_eq_ok.1 created
    obtain ⟨consumerSelected, -, created⟩ := bind_eq_ok.1 created
    obtain ⟨-, created⟩ := raised_or created
    have made := Except.ok.inj created
    subst made
    refine ⟨List.cons_ne_nil _ _, rfl, ?_, ?_, ?_, rfl, rfl, rfl⟩
    · rw [take_length, caseHosts_length]
    · rw [take_length, caseHosts_length]
    · have found := mapError_ok template
      simp only [ValidationPlan.mutates, groupMutates, List.head?_cons, Option.any_some, found, Bool.or_self]

theorem PlanOf.maximumBudget (of : PlanOf b store group plan) (unapproved : b.approvedLargeRun = false) :
    plan.maximumBudget = b.automaticLimit := by
  have bounds := autoRequestLimit_bounds (some b.environment)
  rw [← automaticLimit] at bounds
  unfold ValidationPlan.maximumBudget
  rw [of.approvedLargeRun, unapproved, of.environmentRequestLimit, if_neg (by decide)]
  omega

/-- A replay goes by the budget of its plan. -/
theorem PlanOf.budget (of : PlanOf b store group plan) (unapproved : b.approvedLargeRun = false) :
    plan.budget = b.caseBudget.toNat := by
  have positive := b.caseBudget_pos
  have bounds := autoRequestLimit_bounds (some b.environment)
  rw [← automaticLimit] at bounds
  have within : b.caseBudget ≤ b.automaticLimit := by
    unfold caseBudget BatchRequest.maximumBudget
    rw [unapproved, if_neg (by decide), ← automaticLimit]
    omega
  unfold ValidationPlan.budget
  rw [of.requestBudget, of.maximumBudget unapproved, if_neg (by omega)]
  congr 1
  omega

theorem mappings_any (p : Option Json → Bool) :
    (b.mappings group).any (fun m => p m.manualValue) = group.any fun r => p (b.manualValues.lookup r.id) := by
  have perm := List.perm_insertionSort (fun a c : ParameterRelation => a.id ≤ c.id) group
  unfold mappings
  rw [List.any_map]
  exact perm.any_eq

theorem hostCount_pos (environment : ProjectEnvironment) (profile : ValidationProfile) :
    1 ≤ hostCount environment profile := Nat.le_max_left _ _

theorem options_length {hosts : List HostOption} {selected : HostOption} (some_host : 1 ≤ hosts.length) :
    (if hosts.isEmpty then [selected] else hosts).length = hosts.length := by
  cases hosts with
  | nil => exact absurd some_host (by decide)
  | cons host rest => rfl

theorem PlanOf.mostRequests (of : PlanOf b store group plan) (unapproved : b.approvedLargeRun = false) :
    plan.mostRequests = b.groupMost store group := by
  have positive := b.caseBudget_pos
  have sources := of.sourceHosts
  have consumers := of.consumerHosts
  have source := hostCount_pos b.environment b.sourceProfile
  have consumer := hostCount_pos b.environment b.consumerProfile
  have needs : plan.needsSource = group.any fun r => (b.manualValues.lookup r.id).isNone := by
    rw [ValidationPlan.needsSource, of.relations]
    exact mappings_any Option.isNone
  have after : plan.afterCount = if b.groupMutates store group then 1 else 0 := by
    rw [ValidationPlan.afterCount, of.mutates]
  have sourceOptions : plan.sourceOptions.length = min b.caseBudget.toNat (hostCount b.environment b.sourceProfile) := by
    rw [← sources]
    exact options_length (by omega)
  have consumerOptions :
      plan.consumerOptions.length = min b.caseBudget.toNat (hostCount b.environment b.consumerProfile) := by
    rw [← consumers]
    exact options_length (by omega)
  unfold ValidationPlan.mostRequests ValidationPlan.sourceCount groupMost
  rw [of.budget unapproved, needs, after, sourceOptions, consumerOptions]
  unfold mostRequestsWithin
  split <;> omega

/-! ## The run -/

/-- What a batch that was scheduled has gone through. -/
theorem scheduleValidationBatch_ok (bound : b.relations.mapM store.bind = .ok relations)
    (unapproved : b.approvedLargeRun = false) (scheduled : b.scheduleValidationBatch store = .ok run) :
    List.Forall₂ (fun g plan => PlanOf b store g.2 plan) (sortedPairs relations) run.plans ∧
      ((groupByPair relations).map fun g => b.pairEstimate store g.1).sum ≤ b.automaticLimit := by
  unfold scheduleValidationBatch at scheduled
  dsimp only at scheduled
  obtain ⟨-, scheduled⟩ := raised_or scheduled
  obtain ⟨relations', bound', scheduled⟩ := bind_eq_ok.1 scheduled
  have same : relations' = relations := Except.ok.inj ((mapError_ok bound').symm.trans bound)
  subst same
  obtain ⟨estimated, scheduled⟩ := raised_or scheduled
  obtain ⟨plans, created, scheduled⟩ := bind_eq_ok.1 scheduled
  obtain ⟨-, scheduled⟩ := raised_or scheduled
  have made := Except.ok.inj scheduled
  subst made
  refine ⟨(mapM_ok created).imp fun _ _ => createValidationCaseSnapshot_ok, ?_⟩
  rw [unapproved, Bool.not_false, Bool.and_true, decide_eq_true_eq] at estimated
  exact Int.not_lt.1 estimated

theorem PlanOf.related (of : PlanOf b store group plan) : plan.relations ≠ [] := by
  intro empty
  have length : (b.mappings group).length = group.length := by
    rw [mappings, List.length_map, List.length_insertionSort]
  rw [← of.relations, empty] at length
  exact of.grouped (List.length_eq_zero_iff.1 length.symm)

/-- Plan after plan, the most requests are those of the group. -/
theorem planned_mostRequests (unapproved : b.approvedLargeRun = false)
    {groups : List ((Int × Int) × List ParameterRelation)} {plans : List ValidationPlan}
    (planned : List.Forall₂ (fun g plan => PlanOf b store g.2 plan) groups plans) :
    plans.map ValidationPlan.mostRequests = groups.map (fun g => b.groupMost store g.2) ∧
      ∀ plan ∈ plans, plan.relations ≠ [] := by
  induction planned with
  | nil => exact ⟨rfl, fun _ member => nomatch member⟩
  | cons head _ ih =>
    refine ⟨by rw [List.map_cons, List.map_cons, head.mostRequests unapproved, ih.1], fun plan member => ?_⟩
    rcases List.mem_cons.1 member with rfl | member
    · exact head.related
    · exact ih.2 plan member

/-- The most requests of a run are those of its pairs. -/
theorem plans_mostRequests (bound : b.relations.mapM store.bind = .ok relations)
    (unapproved : b.approvedLargeRun = false) (scheduled : b.scheduleValidationBatch store = .ok run) :
    (run.plans.map ValidationPlan.mostRequests).sum = b.worstCase store relations := by
  have planned := (scheduleValidationBatch_ok bound unapproved scheduled).1
  have perm : (sortedPairs relations).Perm (groupByPair relations) := List.perm_insertionSort _ _
  have sums := (perm.map fun g => b.groupMost store g.2).sum_nat
  rw [(planned_mostRequests unapproved planned).1, worstCase, ← sums]

end BatchRequest

theorem requests_le (plans : List ValidationPlan) (answers : ℕ → ℕ → Attempt) :
    (plans.mapIdx fun i p => businessRequests p (answers i)).sum ≤ (plans.map ValidationPlan.mostRequests).sum := by
  induction plans generalizing answers with
  | nil => exact Nat.le_refl _
  | cons plan rest ih =>
    rw [List.mapIdx_cons, List.sum_cons, List.map_cons, List.sum_cons]
    exact Nat.add_le_add (plan.businessRequests_le _) (ih fun i => answers (i + 1))

/-- Hosts that answer every plan reluctantly. -/
def reluctantHosts (plans : List ValidationPlan) (i : ℕ) : ℕ → Attempt :=
  match plans[i]? with
  | some plan => plan.reluctant
  | none => fun _ => .ok unrouted

theorem requests_reluctant (plans : List ValidationPlan) (related : ∀ plan ∈ plans, plan.relations ≠ []) :
    (plans.mapIdx fun i p => businessRequests p (reluctantHosts plans i)).sum =
      (plans.map ValidationPlan.mostRequests).sum := by
  have each : plans.mapIdx (fun i p => businessRequests p (reluctantHosts plans i)) =
      plans.map ValidationPlan.mostRequests := by
    apply List.ext_getElem?
    intro i
    rw [List.getElem?_mapIdx, List.getElem?_map]
    cases found : plans[i]? with
    | none => rfl
    | some plan =>
      have asked : reluctantHosts plans i = plan.reluctant := by rw [reluctantHosts, found]
      rw [Option.map_some, Option.map_some, asked,
        plan.businessRequests_reluctant (related plan (List.mem_of_getElem? found))]
  rw [each]

section
variable {b : BatchRequest} {store : ValidationStore} {relations : List ParameterRelation} {run : ScheduledBatch}

/-- **The limit of a run.** Whatever the hosts do, a run that was not approved stays within the limit of its
environment, if and only if the most requests of its pairs do. -/
theorem run_within_limit_iff (bound : b.relations.mapM store.bind = .ok relations)
    (unapproved : b.approvedLargeRun = false) (scheduled : b.scheduleValidationBatch store = .ok run) :
    (∀ answers, (run.requests answers : Int) ≤ b.automaticLimit) ↔
      (b.worstCase store relations : Int) ≤ b.automaticLimit := by
  have most := BatchRequest.plans_mostRequests bound unapproved scheduled
  have planned := (BatchRequest.scheduleValidationBatch_ok bound unapproved scheduled).1
  constructor
  · intro within
    have related := (BatchRequest.planned_mostRequests unapproved planned).2
    have reached := within (reluctantHosts run.plans)
    rwa [ScheduledBatch.requests, requests_reluctant run.plans related, most] at reached
  · intro within answers
    have sent := requests_le run.plans answers
    rw [most] at sent
    exact (Int.ofNat_le.2 sent).trans within

/-- Where a budget for each pair is asked for, no pair has more requests than its estimate. -/
theorem groupMost_le_estimate (requested : b.requestedBudget ≠ 0) (group : List ParameterRelation) (pair : Int × Int) :
    (b.groupMost store group : Int) ≤ b.pairEstimate store pair := by
  have budget : b.groupMost store group ≤ b.caseBudget.toNat := Nat.min_le_left _ _
  have positive : 1 ≤ b.relationBudget := by
    unfold BatchRequest.relationBudget
    rw [if_pos requested]
    omega
  have case : b.caseBudget ≤ b.relationBudget := by
    unfold BatchRequest.caseBudget
    omega
  have estimate : b.relationBudget ≤ b.pairEstimate store pair := by
    unfold BatchRequest.pairEstimate
    dsimp only
    rw [if_pos requested]
    omega
  omega

theorem sum_le_sum {α : Type} (xs : List α) (f : α → ℕ) (g : α → Int) (le : ∀ x ∈ xs, (f x : Int) ≤ g x) :
    ((xs.map f).sum : Int) ≤ (xs.map g).sum := by
  induction xs with
  | nil => exact Int.le_refl _
  | cons x rest ih =>
    have head := le x List.mem_cons_self
    have tail := ih fun y member => le y (List.mem_cons_of_mem x member)
    simp only [List.map_cons, List.sum_cons]
    omega

/-- A run for which a budget of each pair was asked stays within the limit. -/
theorem run_within_limit_of_requested (bound : b.relations.mapM store.bind = .ok relations)
    (unapproved : b.approvedLargeRun = false) (requested : b.requestedBudget ≠ 0)
    (scheduled : b.scheduleValidationBatch store = .ok run) (answers : ℕ → ℕ → Attempt) :
    (run.requests answers : Int) ≤ b.automaticLimit := by
  have estimated := (BatchRequest.scheduleValidationBatch_ok bound unapproved scheduled).2
  have most := BatchRequest.plans_mostRequests bound unapproved scheduled
  have sent := requests_le run.plans answers
  have worst : (b.worstCase store relations : Int) ≤
      ((groupByPair relations).map fun g => b.pairEstimate store g.1).sum :=
    sum_le_sum _ _ _ fun g _ => groupMost_le_estimate requested g.2 g.1
  rw [most] at sent
  exact (Int.ofNat_le.2 sent).trans (worst.trans estimated)

end

/-! ## Two pairs and three hosts -/

/-- Endpoints that are all read. -/
def readStore : ValidationStore where
  bind := .ok
  endpoint _ := some ⟨"GET", "a.test", ""⟩
  projectEndpoint _ _ := some ⟨"GET", "a.test", ""⟩
  requestTemplate _ _ := .ok ⟨"GET", "a.test"⟩
  gaps _ _ := []

/-- A test environment with three hosts and a limit of four requests. -/
def threeHosts : ProjectEnvironment :=
  { envId := "env", environmentType := "test", autoRequestLimit := some 4, defaultHost := "a.test"
    hosts := [.str "b.test", .str "c.test"] }

def readRelation (id : String) (source consumer : Int) : ParameterRelation :=
  { id := id, resPathid := source, reqPathid := consumer, parameter := "order_id", sourceLocator := some [],
    targetLocator := some [] }

def testProfile : ValidationProfile := { profileId := "p", projectId := "project", envId := "env" }

def readBatch (relations : List ParameterRelation) : BatchRequest :=
  { relations := relations, sourceProfile := testProfile, consumerProfile := testProfile, environment := threeHosts }

def twoPairs : BatchRequest := readBatch [readRelation "r1" 1 2, readRelation "r2" 3 4]

theorem twoPairs_scheduled : ∃ run, twoPairs.scheduleValidationBatch readStore = .ok run ∧
    run.requests (reluctantHosts run.plans) = 6 := by
  have computed : (match twoPairs.scheduleValidationBatch readStore with
    | .ok run => decide (run.requests (reluctantHosts run.plans) = 6)
    | .error _ => false) = true := by decide +kernel
  split at computed
  · next run scheduled => exact ⟨run, scheduled, of_decide_eq_true computed⟩
  · nomatch computed

/-- Two pairs with a budget of two requests each. -/
def askedPairs : BatchRequest := { twoPairs with perRelationRequestBudget := .int 2 }

theorem run_within_limit_asked : ∃ run, askedPairs.scheduleValidationBatch readStore = .ok run ∧
    ∀ answers, (run.requests answers : Int) ≤ askedPairs.automaticLimit := by
  have computed : (askedPairs.scheduleValidationBatch readStore).toOption.isSome = true := by decide +kernel
  obtain ⟨run, returned⟩ := Option.isSome_iff_exists.mp computed
  have scheduled := toOption_eq_some.mp returned
  have bound : askedPairs.relations.mapM readStore.bind = .ok askedPairs.relations := rfl
  exact ⟨run, scheduled, run_within_limit_of_requested bound rfl (by decide) scheduled⟩

/-- Two pairs, each of which tries two hosts of its source and one of its consumer, send six requests where four
are allowed. -/
theorem run_exceeds_limit : ¬ ∀ (b : BatchRequest) (store : ValidationStore) (run : ScheduledBatch),
    b.approvedLargeRun = false → b.scheduleValidationBatch store = .ok run →
    ∀ answers, (run.requests answers : Int) ≤ b.automaticLimit := by
  intro within
  obtain ⟨run, scheduled, sent⟩ := twoPairs_scheduled
  have four : twoPairs.automaticLimit = 4 := by decide +kernel
  have allowed := within twoPairs readStore run rfl scheduled (reluctantHosts run.plans)
  rw [sent, four] at allowed
  exact absurd allowed (by decide)

/-- One pair alone. -/
def onePair : BatchRequest := readBatch [readRelation "r1" 1 2]

/-- The run of one pair stays within the limit. -/
theorem run_within_limit_one : ∃ run, onePair.scheduleValidationBatch readStore = .ok run ∧
    ∀ answers, (run.requests answers : Int) ≤ onePair.automaticLimit := by
  have computed : (match onePair.scheduleValidationBatch readStore with
    | .ok _ => true
    | .error _ => false) = true := by decide +kernel
  split at computed
  · next run scheduled =>
    have bound : onePair.relations.mapM readStore.bind = .ok onePair.relations := rfl
    exact ⟨run, scheduled, (run_within_limit_iff bound rfl scheduled).2 (by decide +kernel)⟩
  · nomatch computed

end ApiManger.Parameters
