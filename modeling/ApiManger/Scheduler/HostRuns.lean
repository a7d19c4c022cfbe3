import ApiManger.Collection.Streak
import ApiManger.Scheduler.HostOutcomes

/-!
# Runs of outcomes

What stops a host: `record_outcome` keeps one counter for each kind of failure and sets
all but one to zero at every outcome, so that a counter is the streak of its kind. The
host is stopped at the first outcome that completes a run of threshold-many of one kind.
-/

namespace ApiManger.Scheduler
open Python Store Execution Collection

/-- What an outcome counts as. -/
inductive OutcomeKind where
  | transportError
  | rateLimit
  | serverError
  | other
  deriving DecidableEq

namespace OutcomeKind

/-- How many outcomes of the kind in a row stop a host; zero where none do. -/
def threshold (policy : ExecutionPolicy) : OutcomeKind → Int
  | transportError => policy.transportErrorStop
  | rateLimit => policy.rateLimitStop
  | serverError => policy.serverErrorStop
  | other => 0

/-- The reason a host is stopped with. -/
def reason : OutcomeKind → String
  | transportError => "transport_error_threshold"
  | rateLimit => "rate_limit_threshold"
  | serverError => "server_error_threshold"
  | other => ""

end OutcomeKind

/-- The kind of an outcome; `int(status)` raises for a status that is no number. -/
def outcomeKind (evidence : Dict) : Except PyError OutcomeKind := do
  if hasError evidence then return .transportError
  if isRateLimit (Dict.get evidence "status_code") then return .rateLimit
  if ← isServerError (Dict.get evidence "status_code") then return .serverError
  return .other

/-- The kinds of the outcomes that were recorded. -/
def kindsOf (outcomes : List Dict) : List OutcomeKind :=
  outcomes.filterMap fun evidence => (outcomeKind evidence).toOption

/-- The last outcome completes a run of threshold-many outcomes of one kind. -/
def CompletesRun (policy : ExecutionPolicy) (kind : OutcomeKind) (kinds : List OutcomeKind) : Prop :=
  0 < kind.threshold policy ∧ EndsInRun (· = kind) (kind.threshold policy).toNat kinds

def CompletesSomeRun (policy : ExecutionPolicy) (kinds : List OutcomeKind) : Prop :=
  ∃ kind, CompletesRun policy kind kinds

variable {policy : ExecutionPolicy} {kind : OutcomeKind} {kinds : List OutcomeKind}

/-- How many outcomes of a kind the history ends in. -/
def streakOf (kind : OutcomeKind) (kinds : List OutcomeKind) : Nat :=
  streak (fun k => decide (k = kind)) kinds

@[simp] theorem streakOf_nil (kind : OutcomeKind) : streakOf kind [] = 0 := rfl

@[simp] theorem streakOf_append (kind last : OutcomeKind) (kinds : List OutcomeKind) :
    streakOf kind (kinds ++ [last]) = if last = kind then streakOf kind kinds + 1 else 0 := by
  simp [streakOf, streak_append]

theorem completesRun_iff : CompletesRun policy kind kinds ↔
    0 < kind.threshold policy ∧ kind.threshold policy ≤ streakOf kind kinds := by
  have ends := endsInRun_iff (fun k => decide (k = kind)) (kind.threshold policy).toNat kinds
  simp only [decide_eq_true_eq] at ends
  rw [CompletesRun, ends, ← streakOf]
  exact and_congr_right fun _ => by omega

/-- Only a run of the kind of the last outcome is completed. -/
theorem CompletesRun.last {last : OutcomeKind} (completes : CompletesRun policy kind (kinds ++ [last])) :
    last = kind := by
  have ⟨positive, long⟩ := completesRun_iff.mp completes
  by_contra differs
  rw [streakOf_append, if_neg differs] at long
  omega

/-- No run is completed before the first outcome. -/
theorem not_completesSomeRun_nil : ¬ CompletesSomeRun policy [] := by
  rintro ⟨kind, completes⟩
  have ⟨positive, long⟩ := completesRun_iff.mp completes
  rw [streakOf_nil] at long
  omega

/-! ## The counters -/

/-- A host that is not stopped has the streaks in its counters. -/
def counted (host : String) (kinds : List OutcomeKind) (stoppedReason : String) : HostState :=
  ⟨host, streakOf .transportError kinds, streakOf .rateLimit kinds, streakOf .serverError kinds, stoppedReason⟩

/-- The reason for which the last outcome stops its host, if it does. -/
def reasonAfter (policy : ExecutionPolicy) (kind : OutcomeKind) (kinds : List OutcomeKind) : String :=
  if reached (kind.threshold policy) (streakOf kind (kinds ++ [kind])) then kind.reason else ""

/-- One outcome of a host that is not stopped: its kind's streak goes on, the others end. -/
theorem countOutcome_counted (policy : ExecutionPolicy) (host : String) (kinds : List OutcomeKind)
    (evidence : Dict) : countOutcome policy (counted host kinds "") evidence =
      (outcomeKind evidence).map fun kind =>
        counted host (kinds ++ [kind]) (reasonAfter policy kind kinds) := by
  simp only [countOutcome, outcomeKind, counted, reasonAfter, bne_self_eq_false, if_false, Bool.false_eq_true]
  dsimp only [bind, Except.bind, pure, Except.pure]
  split
  · simp only [Except.map, OutcomeKind.threshold, OutcomeKind.reason, streakOf_append, if_true, reduceCtorEq, if_false]
    push_cast
    rfl
  split
  · simp only [Except.map, OutcomeKind.threshold, OutcomeKind.reason, streakOf_append, if_true, reduceCtorEq, if_false]
    push_cast
    rfl
  cases isServerError (Dict.get evidence "status_code") with
  | error e => rfl
  | ok isServer =>
    cases isServer with
    | true =>
      simp only [Except.map, OutcomeKind.threshold, OutcomeKind.reason, streakOf_append, if_true, reduceCtorEq,
        if_false]
      push_cast
      rfl
    | false => simp [Except.map, OutcomeKind.threshold, OutcomeKind.reason]

/-! ## The stop -/

/-- The reason a host is to be stopped with: that of the first run that was completed. -/
def StopsWith (policy : ExecutionPolicy) (kinds : List OutcomeKind) (reason : String) : Prop :=
  ∃ moment kind, FirstMoment (CompletesSomeRun policy) moment kinds ∧
    CompletesRun policy kind moment ∧ reason = kind.reason

/-- Either no run was completed yet, and the counters of the host are the streaks, or the host is stopped
with the reason of the first one. -/
inductive StopState (policy : ExecutionPolicy) (kinds : List OutcomeKind) (h : HostState) : Prop where
  | goingOn (notYet : NotYet (CompletesSomeRun policy) kinds) (streaks : h = counted h.host kinds "")
  | stopped (is : StopsWith policy kinds h.stoppedReason)

theorem CompletesRun.reason_ne (completes : CompletesRun policy kind kinds) : kind.reason ≠ "" := by
  have positive : 0 < kind.threshold policy := completes.1
  cases kind with
  | other => exact absurd positive (Int.lt_irrefl 0)
  | _ => decide

/-- Two kinds do not complete a run at once. -/
theorem CompletesRun.unique {kind' : OutcomeKind} (completes : CompletesRun policy kind kinds)
    (completes' : CompletesRun policy kind' kinds) : kind = kind' := by
  rcases List.eq_nil_or_concat kinds with rfl | ⟨before, last, rfl⟩
  · exact absurd ⟨kind, completes⟩ not_completesSomeRun_nil
  · rw [List.concat_eq_append] at completes completes'
    exact completes.last.symm.trans completes'.last

theorem StopsWith.reason_ne {reason : String} (stops : StopsWith policy kinds reason) : reason ≠ "" := by
  obtain ⟨moment, kind, -, completes, rfl⟩ := stops
  exact completes.reason_ne

theorem StopsWith.unique {reason reason' : String} (stops : StopsWith policy kinds reason)
    (stops' : StopsWith policy kinds reason') : reason = reason' := by
  obtain ⟨moment, kind, first, completes, rfl⟩ := stops
  obtain ⟨moment', kind', first', completes', rfl⟩ := stops'
  obtain rfl := first.unique first'
  rw [completes.unique completes']

theorem StopsWith.append {reason : String} (stops : StopsWith policy kinds reason) (last : OutcomeKind) :
    StopsWith policy (kinds ++ [last]) reason := by
  obtain ⟨moment, kind, first, completes, is⟩ := stops
  exact ⟨moment, kind, first.append, completes, is⟩

/-- The thresholds of a valid policy are not negative. -/
theorem threshold_nonneg (valid : validatePolicy policy = .ok ()) (kind : OutcomeKind) :
    0 ≤ kind.threshold policy := by
  have checks := requireAll_ok.mp valid
  simp only [List.forall_mem_cons, between, Bool.and_eq_true, decide_eq_true_eq] at checks
  obtain ⟨-, -, -, -, -, ⟨transport, -⟩, ⟨rate, -⟩, ⟨server, -⟩, -⟩ := checks
  cases kind with
  | transportError => exact transport
  | rateLimit => exact rate
  | serverError => exact server
  | other => exact Int.le_refl 0

/-- An outcome stops its host where it completes a run. -/
theorem reached_iff (valid : validatePolicy policy = .ok ()) :
    reached (kind.threshold policy) (streakOf kind (kinds ++ [kind])) = true ↔
      CompletesRun policy kind (kinds ++ [kind]) := by
  have nonneg := threshold_nonneg valid kind
  rw [completesRun_iff, reached, Bool.and_eq_true, bne_iff_ne, decide_eq_true_eq]
  exact and_congr_left fun _ => by omega

/-- A stopped host counts no more outcomes. -/
theorem recordEach_stopped {h : HostState} (stopped : h.stoppedReason ≠ "") (evidence : Dict) :
    recordEach policy h evidence = h := by
  unfold recordEach
  cases count : countOutcome policy h evidence with
  | ok h' => exact countOutcome_stopped stopped count
  | error e => rfl

/-- One outcome more. -/
theorem StopState.record (valid : validatePolicy policy = .ok ()) {h : HostState}
    (state : StopState policy kinds h) (evidence : Dict) :
    StopState policy (kinds ++ (outcomeKind evidence).toOption.toList) (recordEach policy h evidence) := by
  cases state with
  | stopped is =>
    rw [recordEach_stopped is.reason_ne]
    cases outcomeKind evidence with
    | error e => simpa [Except.toOption] using StopState.stopped is
    | ok last => exact .stopped (is.append last)
  | goingOn notYet streaks =>
    have count := countOutcome_counted policy h.host kinds evidence
    rw [← streaks] at count
    rw [recordEach, count]
    cases outcomeKind evidence with
    | error e => simpa [Except.toOption, Except.map] using StopState.goingOn notYet streaks
    | ok last =>
      show StopState policy (kinds ++ [last]) (counted h.host (kinds ++ [last]) (reasonAfter policy last kinds))
      unfold reasonAfter
      split
      · next completes =>
        rw [reached_iff valid] at completes
        exact .stopped ⟨_, last, .of_notYet notYet ⟨last, completes⟩, completes, rfl⟩
      · next short =>
        refine .goingOn (notYet.append ?_) rfl
        rintro ⟨kind, completes⟩
        obtain rfl := completes.last
        exact short ((reached_iff valid).mpr completes)

/-- **Outcomes.** After any outcomes a host is stopped with the reason of the first run that was
completed, or not stopped where none was. -/
theorem foldOutcomes_stopState (valid : validatePolicy policy = .ok ()) (host : String) (outcomes : List Dict) :
    StopState policy (kindsOf outcomes) (foldOutcomes policy host outcomes) := by
  induction outcomes using List.reverseRecOn with
  | nil =>
    refine .goingOn (fun moment within is => ?_) rfl
    obtain rfl := List.prefix_nil.mp within
    exact not_completesSomeRun_nil is
  | append_singleton outcomes evidence ih =>
    have kinds : kindsOf (outcomes ++ [evidence]) =
        kindsOf outcomes ++ (outcomeKind evidence).toOption.toList := by
      cases kind : outcomeKind evidence <;> simp [kindsOf, kind, Except.toOption]
    rw [foldOutcomes_append, kinds]
    exact ih.record valid evidence

/-- What a stop state says about the reason. -/
theorem StopState.stoppedReason_iff {h : HostState} (state : StopState policy kinds h) (reason : String)
    (stops : reason ≠ "") : h.stoppedReason = reason ↔ StopsWith policy kinds reason := by
  cases state with
  | goingOn notYet streaks =>
    constructor
    · rintro rfl
      rw [streaks] at stops
      exact absurd rfl stops
    · rintro ⟨moment, kind, first, -, -⟩
      exact absurd first.now (notYet moment first.within)
  | stopped is => exact ⟨fun same => same ▸ is, fun other => is.unique other⟩

/-- A host goes on as long as no run was completed. -/
theorem StopState.continues_iff {h : HostState} (state : StopState policy kinds h) :
    h.stoppedReason = "" ↔ NotYet (CompletesSomeRun policy) kinds := by
  cases state with
  | goingOn notYet streaks =>
    rw [streaks]
    exact ⟨fun _ => notYet, fun _ => rfl⟩
  | stopped is =>
    refine ⟨fun goesOn => absurd goesOn is.reason_ne, fun notYet => ?_⟩
    obtain ⟨moment, kind, first, -, -⟩ := is
    exact absurd first.now (notYet moment first.within)

end ApiManger.Scheduler
