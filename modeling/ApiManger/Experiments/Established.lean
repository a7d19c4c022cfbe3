import ApiManger.Experiments.Labels
import ApiManger.Scheduler.Footprint
import Mathlib.Data.List.TakeWhile
import Mathlib.Tactic.NormNum

/-!
# A pass rests on established values

The gate of the scheduler takes a pass back that rests on a required value nobody established. It
sees the label of the last row of each name, so a real value in the path hides the synthetic
default of the same name in the query.
-/

namespace ApiManger.Experiments
open Python Store Execution Scheduler Interleaving

/-! ## The gate -/

/-- The gate leaves a passing verdict only where the evidence blocks no pass. -/
theorem gate_passing {j : Judgement} {evidence : Dict} :
    (applyRequiredParameterGate j evidence).verdict ∈ passBlockingVerdicts ↔
      j.verdict ∈ passBlockingVerdicts ∧ blocksPass evidence = false := by
  unfold applyRequiredParameterGate
  split
  · next closed =>
    have blocks := (Bool.and_eq_true_iff.mp closed).2
    simp [passBlockingVerdicts, blocks]
  · next opened =>
    refine ⟨fun passing => ⟨passing, ?_⟩, And.left⟩
    rw [List.contains_iff_mem.mpr passing, Bool.true_and] at opened
    exact Bool.eq_false_iff.mpr opened

/-- The evidence blocks a pass where the summary put into it does. -/
theorem blocksPass_of_summary (evidence : Dict) {q : ParameterQuality} (blocks : q.blocksPass = true) :
    blocksPass (withParameterQuality evidence q) = true := by
  rw [withParameterQuality, blocks, Bool.true_or, if_pos rfl, blocksPass, Dict.get_set_self]
  simp [ParameterQuality.toJson, Dict.truthy, Dict.get, Dict.get?, Json.truthy, blocks]

/-- What an anonymous request of a target that asks for a login brings. -/
def refusedEvidence : Dict := [("status_code", .int 401)]

/-- What the generic judge makes of it. -/
def loginRequired : Judgement := ⟨"no_vuln", ["anonymous_authentication_required"], 97/100⟩

theorem refusedEvidence_open {q : ParameterQuality} (opened : q.blocksPass = false) :
    blocksPass (withParameterQuality refusedEvidence q) = false := by
  unfold withParameterQuality
  split
  · rw [blocksPass, Dict.get_set_self]
    simp [ParameterQuality.toJson, Dict.truthy, Dict.get, Dict.get?, Json.truthy, opened]
  · decide

/-- The generic verdict on a mutation is no pass. -/
theorem classifyGenericMutationResult_verdict {evidence : Dict} {j : Judgement}
    (judged : classifyGenericMutationResult evidence = .ok j) : j.verdict ∉ passBlockingVerdicts := by
  unfold classifyGenericMutationResult at judged
  split at judged
  · cases judged
    decide
  split at judged
  · cases judged
    decide
  obtain ⟨status, -, judged⟩ := bind_eq_ok.mp judged
  split at judged
  · cases judged
    decide
  split at judged
  · cases judged
    decide
  split at judged <;> cases judged <;> decide

/-- A run with one of the generic adapters, which admits it. -/
structure GenericRun (job : Job) : Prop where
  generic : job.adapter ∈ builtinExecutionAdapters classifyExecutionResult
  admitted : job.adapter.validate job.claimed.run job.policy.allowMutation = .ok ()

theorem GenericRun.adapterId {job : Job} (run : GenericRun job) :
    genericAdapters.contains job.adapter.adapterId = true := by
  have mem := run.generic
  simp only [builtinExecutionAdapters, List.mem_cons, List.not_mem_nil, or_false] at mem
  rcases mem with same | same <;> rw [same] <;> decide

/-- A snapshot that is stored of a payload, in what its execution reads. -/
structure Stores (payload : Payload) (snapshot : RequestSnapshot) : Prop where
  method : snapshot.method = (payloadToSnapshotData payload).method
  url : snapshot.url = (payloadToSnapshotData payload).url
  path : snapshot.path = (payloadToSnapshotData payload).path
  parameterSources : snapshot.parameterSources = (payloadToSnapshotData payload).parameterSources

/-- No result that a first run of the snapshot stores has a passing verdict, whatever comes back. -/
def RecordsNoPass (snapshot : RequestSnapshot) : Prop :=
  ∀ job, GenericRun job → ∀ checkpoint evidence, (recordFirstRun job checkpoint snapshot evidence).Uses fun o : Op =>
    ∀ result, o = .insertResult result → result.verdict ∉ passBlockingVerdicts

section
variable {job : Job} {checkpoint : SecurityExecutionCheckpoint} {snapshot : RequestSnapshot} {evidence : Dict}

/-- What is judged goes through the gate. -/
theorem judge_ok {j : Judgement} : judge job snapshot evidence = .ok j ↔ ∃ raw,
    (if genericAdapters.contains job.adapter.adapterId && isMutation snapshot then classifyGenericMutationResult evidence
      else job.adapter.judge evidence job.claimed.run.checkType job.claimed.run.authMode) = .ok raw ∧
        applyRequiredParameterGate raw evidence = j := by
  unfold judge
  dsimp only
  split <;> simp only [bind_eq_ok, pure, Except.pure, Except.ok.injEq]

/-- The results a first run stores have the verdict of its judgement. -/
theorem recordFirstRun_verdicts {verdicts : List String}
    (none : ∀ j, judge job snapshot (withParameterQuality evidence
      (requiredParameterQualitySummary snapshot.parameterSources)) = .ok j → j.verdict ∉ verdicts) :
    (recordFirstRun job checkpoint snapshot evidence).Uses fun o : Op =>
      ∀ result, o = .insertResult result → result.verdict ∉ verdicts := by
  have other : ∀ {o : Op}, (∀ result, o ≠ .insertResult result) →
      ∀ result, o = .insertResult result → result.verdict ∉ verdicts :=
    fun not result same => (not result same).elim
  refine .bind (.when (.perform (other nofun))) fun _ => ?_
  refine .ofExcept_bind fun summary _ => .ofExcept_bind fun j judged => ?_
  refine .bind ?_ fun result => .bind (.when (.perform (other nofun))) fun _ => ?_
  · refine .ofExcept_bind fun _ _ => .bind ?_ fun existing => ?_
    · unfold existingResult
      split
      · exact .ret
      · exact .perform (other nofun)
    · cases existing with
      | some existing => exact .ret
      | none =>
        refine .bind (.perform (other nofun)) fun now => .handle (.perform ?_) fun e => ?_
        · rintro result same
          cases same
          exact none j judged
        · split
          · refine .bind (.perform (other nofun)) fun found => ?_
            cases found with
            | some stored => exact .ret
            | none => exact .raise
          · exact .raise
  · exact .bind (.bind (.perform (other nofun)) fun _ => .perform (other nofun)) fun _ => .ret

/-- A first run that is judged comes to store a result with the verdict. -/
theorem recordFirstRun_inserts {P : Op → Prop} (uses : (recordFirstRun job checkpoint snapshot evidence).Uses P)
    {summary : Dict} {j : Judgement}
    (sanitized : sanitizeExecutionEvidence (withParameterQuality evidence
      (requiredParameterQualitySummary snapshot.parameterSources)) = .ok summary)
    (judged : judge job snapshot (withParameterQuality evidence
      (requiredParameterQualitySummary snapshot.parameterSources)) = .ok j)
    (valid : (resultInput job checkpoint snapshot (withParameterQuality evidence
      (requiredParameterQualitySummary snapshot.parameterSources)) summary j).validate = .ok ()) :
    ∃ result, result.verdict = j.verdict ∧ P (.insertResult result) := by
  have counted : (Prog.when (job.adapter.requestPolicyScope = .checkpoint)
      (recordOutcome checkpoint.host evidence)).MayReturn () := by
    unfold Prog.when
    split
    · exact ⟨.ok (), rfl⟩
    · rfl
  unfold recordFirstRun at uses
  simp only [Prog.bind_eq] at uses
  have judging := (uses.rest counted).rest (a := summary) (by rw [sanitized]; rfl)
  have recording := (judging.rest (a := j) (by rw [judged]; rfl)).of_bind
  unfold recordExecutionResultInput at recording
  simp only [Prog.bind_eq] at recording
  have looking := recording.rest (a := ()) (by rw [valid]; rfl)
  have missing : (existingResult (executionKey job.claimed.run.id checkpoint.snapshotId)).MayReturn none := by
    unfold existingResult
    split
    · rfl
    · exact ⟨.ok none, rfl⟩
  have dating := looking.rest missing
  dsimp only at dating
  have dated : Prog.MayReturn (0 : Timestamp) utcnow := ⟨.ok (0 : Timestamp), rfl⟩
  have inserting := dating.rest dated
  exact ⟨_, rfl, inserting.1⟩

end

/-! ## When a pass rests on established values -/

/-- The method a request of an endpoint is sent with. -/
def requestMethod (data : Endpoint) : String := upper (if data.method = "" then "GET" else data.method)

/-- A run of the generic adapter that asks whether a target answers without a login. -/
def anonymousJob : Job where
  claimed := {
    run := {
      id := 1, checkType := "unauth_access", projectId := "p", authMode := "anonymous",
      adapterId := "snapshot_batch", leaseToken := some 1 }
    token := 1
    held := rfl }
  adapter := {
    adapterId := "snapshot_batch", adapterVersion := "1", judge := classifyExecutionResult,
    authModes := ["anonymous", "inherit"], supportsMutation := true }
  policy := {}
  leaseSeconds := 60

theorem anonymousJob_generic : GenericRun anonymousJob := ⟨.head _, rfl⟩

theorem get_withParameterQuality (evidence : Dict) (q : ParameterQuality) {key : String}
    (other : key ≠ "parameter_quality") : Dict.get (withParameterQuality evidence q) key = Dict.get evidence key := by
  unfold withParameterQuality
  split
  · exact Dict.get_set_ne _ _ other
  · rfl

theorem refused_judged (q : ParameterQuality) :
    classifyExecutionResult (withParameterQuality refusedEvidence q) "unauth_access" "anonymous" =
      .ok loginRequired := by
  have status : Dict.get (withParameterQuality refusedEvidence q) "status_code" = .int 401 :=
    get_withParameterQuality _ _ (by decide)
  have noError : hasError (withParameterQuality refusedEvidence q) = false := by
    rw [hasError, Dict.truthy, Dict.truthy, get_withParameterQuality _ _ (by decide),
      get_withParameterQuality _ _ (by decide)]
    rfl
  rw [classifyExecutionResult, noError, status]
  rfl

theorem refused_sanitized (q : ParameterQuality) :
    ∃ summary, sanitizeExecutionEvidence (withParameterQuality refusedEvidence q) = .ok summary := by
  unfold withParameterQuality
  split
  · generalize q.toJson = quality
    exact ⟨_, rfl⟩
  · exact ⟨_, rfl⟩

/-- A text that begins with no space is not blank. -/
theorem notBlank_of_head {text : String} {c : Char} {rest : List Char} (spelled : text.toList = c :: rest)
    (solid : isSpace c = false) : notBlank text = true := by
  rw [notBlank, strip, spelled, List.dropWhile_cons_of_neg (by simp [solid])]
  have inside : c ∈ (c :: rest).reverse := List.mem_reverse.mpr (.head _)
  rw [Bool.not_eq_true', List.isEmpty_eq_false_iff, List.reverse_ne_nil_iff]
  intro none
  rw [List.dropWhile_eq_nil_iff.mp none c inside] at solid
  cases solid

/-- A text that begins with a safe method is not blank. -/
theorem notBlank_caseName {method : String} (safe : Execution.safeMethods.contains method = true) (rest : String) :
    notBlank (method ++ " " ++ rest) = true := by
  have some := List.contains_iff_mem.mp safe
  simp only [Execution.safeMethods, List.mem_cons, List.not_mem_nil, or_false] at some
  rcases some with rfl | rfl | rfl
  · exact notBlank_of_head (by simp only [String.toList_append]; rfl) (c := 'G') (by decide)
  · exact notBlank_of_head (by simp only [String.toList_append]; rfl) (c := 'H') (by decide)
  · exact notBlank_of_head (by simp only [String.toList_append]; rfl) (c := 'O') (by decide)

variable {composer : Composer} {context : ComposeContext} {data : Endpoint} {payload : Payload}
  {snapshot : RequestSnapshot}

theorem composed_method
    (built : buildRequestPayload composer context data = .ok payload) : payload.method = requestMethod data := by
  obtain ⟨draft, -, done⟩ := bind_eq_ok.mp built
  cases done
  rfl

theorem Stores.sent (built : buildRequestPayload composer context data = .ok payload)
    (stores : Stores payload snapshot) : snapshot.method = requestMethod data := by
  rw [stores.method, payloadToSnapshotData]
  dsimp only
  rw [if_neg (by simpa using (buildRequestPayload_method built).1), composed_method built]

theorem Stores.mutation (built : buildRequestPayload composer context data = .ok payload)
    (stores : Stores payload snapshot) : isMutation snapshot = !Execution.safeMethods.contains (requestMethod data) := by
  have read : snapshot.method.map Char.toUpper = requestMethod data := by
    rw [stores.sent built, ← composed_method built, String.map_eq_internal]
    exact (buildRequestPayload_method built).2
  rw [isMutation, read]

/-- A request under a label that blocks a pass has no passing verdict. -/
theorem recordsNoPass_of_blocks
    (blocks : (requiredParameterQualitySummary snapshot.parameterSources).blocksPass = true) : RecordsNoPass snapshot := by
  intro job run checkpoint evidence
  refine recordFirstRun_verdicts fun j judged passing => ?_
  obtain ⟨raw, -, rfl⟩ := judge_ok.mp judged
  have opened := (gate_passing.mp passing).2
  rw [blocksPass_of_summary evidence blocks] at opened
  cases opened

/-- A mutation has no passing verdict. -/
theorem recordsNoPass_of_mutation (mutation : isMutation snapshot = true) :
    RecordsNoPass snapshot := by
  intro job run checkpoint evidence
  refine recordFirstRun_verdicts fun j judged passing => ?_
  obtain ⟨raw, classified, rfl⟩ := judge_ok.mp judged
  rw [run.adapterId, mutation, Bool.and_self, if_pos rfl] at classified
  exact classifyGenericMutationResult_verdict classified (gate_passing.mp passing).1

/-- A safe request under labels that block no pass has one, where its target asks for a login. -/
theorem not_recordsNoPass (safe : Execution.safeMethods.contains snapshot.method = true)
    (reads : isMutation snapshot = false)
    (opened : (requiredParameterQualitySummary snapshot.parameterSources).blocksPass = false) :
    ¬ RecordsNoPass snapshot := by
  intro none
  have uses := none anonymousJob anonymousJob_generic { id := 1, runId := 1, snapshotId := snapshot.id } refusedEvidence
  obtain ⟨summary, sanitized⟩ := refused_sanitized (requiredParameterQualitySummary snapshot.parameterSources)
  have judged : judge anonymousJob snapshot (withParameterQuality refusedEvidence
      (requiredParameterQualitySummary snapshot.parameterSources)) =
        .ok loginRequired := by
    refine judge_ok.mpr ⟨loginRequired, ?_, ?_⟩
    · rw [reads, Bool.and_false, if_neg Bool.false_ne_true]
      exact refused_judged _
    · rw [applyRequiredParameterGate, refusedEvidence_open opened, Bool.and_false, if_neg Bool.false_ne_true]
  have valid : (resultInput anonymousJob { id := 1, runId := 1, snapshotId := snapshot.id } snapshot
      (withParameterQuality refusedEvidence (requiredParameterQualitySummary snapshot.parameterSources)) summary
        loginRequired).validate = .ok () := by
    refine requireAll_ok.mpr fun check mem => ?_
    simp only [List.mem_cons, List.not_mem_nil, or_false] at mem
    rcases mem with rfl | rfl | rfl | rfl | rfl
    · exact notBlank_caseName safe _
    · simp only [resultInput, anonymousJob]
      decide +kernel
    · simp only [resultInput, loginRequired]
      decide +kernel
    · simp only [resultInput, loginRequired]
      norm_num
    · rfl
  obtain ⟨result, verdict, absent⟩ := recordFirstRun_inserts uses sanitized judged valid
  exact absent result rfl (by rw [verdict]; decide)

/-- The snapshot of a safe request whose labels block no pass. -/
theorem stored_passes
    (built : buildRequestPayload composer context data = .ok payload)
    (safe : Execution.safeMethods.contains (requestMethod data) = true) (free : ¬ BlocksPass data.entries) :
    ∃ snapshot, Stores payload snapshot ∧ ¬ RecordsNoPass snapshot := by
  let snapshot : RequestSnapshot := {
    id := 1
    method := (payloadToSnapshotData payload).method
    url := (payloadToSnapshotData payload).url
    path := (payloadToSnapshotData payload).path
    parameterSources := (payloadToSnapshotData payload).parameterSources }
  have stores : Stores payload snapshot := ⟨rfl, rfl, rfl, rfl⟩
  have opened : (requiredParameterQualitySummary snapshot.parameterSources).blocksPass = false :=
    Bool.eq_false_iff.mpr (mt (composed_blocks built).mp free)
  refine ⟨snapshot, stores, not_recordsNoPass ?_ ?_ opened⟩
  · rw [stores.sent built]
    exact safe
  · rw [stores.mutation built, safe]
    rfl

/-- **No pass without established values.** Where a composed request carries a required value nobody
established, its execution records no pass exactly when the last row of some name is required and
sent under a blocking label, or the method is that of a mutation. -/
theorem no_pass_iff {composer : Composer} {context : ComposeContext} {data : Endpoint} {payload : Payload}
    (built : buildRequestPayload composer context data = .ok payload) :
    (CarriesUnestablished composer data.entries → ∀ snapshot, Stores payload snapshot → RecordsNoPass snapshot) ↔
      (CarriesUnestablished composer data.entries →
        BlocksPass data.entries ∨ Execution.safeMethods.contains (requestMethod data) = false) := by
  refine imp_congr_right fun carried => ?_
  constructor
  · intro none
    by_contra fails
    obtain ⟨free, mutation⟩ := not_or.mp fails
    obtain ⟨snapshot, stores, passes⟩ := stored_passes built (by simpa using mutation) free
    exact passes (none snapshot stores)
  · rintro (blocks | mutation) snapshot stores
    · refine recordsNoPass_of_blocks ?_
      rw [stores.parameterSources]
      exact (composed_blocks built).mpr blocks
    · refine recordsNoPass_of_mutation ?_
      rw [stores.mutation built, mutation]
      rfl

/-- A required parameter with the values of its row only. -/
def storedEntry (parameter position : String) (value : List Json) : Entry where
  parameter := parameter
  position := position
  type := "string"
  required := true
  contentType := ""
  value := value
  locator := []
  canonicalName := ""
  schemaPath := ""
  dependency := (.null, [])
  relation := .null
  archive := (.null, .null, .str "unknown")

/-- `id` is asked for in the query, where it has no value, and in the path, where it has one. -/
def ordersOfUser : Endpoint where
  id := "e1"
  ptahId := 7
  projectId := "p"
  envId := "t"
  importRunId := ""
  sourceMeta := []
  method := "GET"
  url := "https://shop.test/users/{id}/orders"
  path := "/users/{id}/orders"
  domain := "shop.test"
  query := .null
  headers := []
  rawReq := []
  rawRes := []
  responseStatusCode := []
  action := ""
  rule := ""
  tags := ""
  des := ""
  entries := [storedEntry "id" "query" [], storedEntry "id" "path" [.str "42"]]
  sample := none

def plainComposer : Composer where
  parameterLocator := fun _ _ => []
  setValueAtLocator := fun body _ _ => .ok body
  renderRequestUrl := Payload.url

def ordersContext : ComposeContext := ⟨"p", "t", "", "anonymous", "asset"⟩

theorem ordersOfUser_carries : CarriesUnestablished plainComposer ordersOfUser.entries := by
  refine ⟨storedEntry "id" "query" [], ⟨rfl, .inl rfl⟩, ⟨by decide, by decide⟩, [], _, rfl, fun e mem _ => ?_⟩
  rw [List.mem_singleton.mp mem]
  decide

theorem ordersOfUser_passes : ∃ payload, buildRequestPayload plainComposer ordersContext ordersOfUser = .ok payload ∧
    ((CarriesUnestablished plainComposer ordersOfUser.entries → ∀ snapshot, Stores payload snapshot →
        RecordsNoPass snapshot) ↔
      (CarriesUnestablished plainComposer ordersOfUser.entries →
        BlocksPass ordersOfUser.entries ∨ Execution.safeMethods.contains (requestMethod ordersOfUser) = false)) :=
  ⟨_, rfl, no_pass_iff rfl⟩

/-- The query goes out with the synthetic default, and the refusal of the request is a pass. -/
theorem shadowed_default_passes : ¬ (∀ payload, buildRequestPayload plainComposer ordersContext ordersOfUser = .ok payload →
    CarriesUnestablished plainComposer ordersOfUser.entries → ∀ snapshot, Stores payload snapshot →
      RecordsNoPass snapshot) := by
  intro claimed
  obtain ⟨payload, built⟩ : ∃ payload, buildRequestPayload plainComposer ordersContext ordersOfUser = .ok payload :=
    ⟨_, rfl⟩
  have free : ¬ BlocksPass ordersOfUser.entries := by
    rintro ⟨e, last, required, sent, label⟩
    have named := List.mem_of_find?_eq_some (show List.find? _ _ = some e from last)
    rcases List.mem_cons.mp (List.mem_reverse.mp named) with rfl | mem
    · exact absurd (congrArg (Option.map Entry.position) last) (by decide)
    · obtain rfl := List.mem_singleton.mp mem
      revert label
      decide
  obtain ⟨snapshot, stores, passes⟩ := stored_passes built (by decide) free
  exact passes (claimed payload built ordersOfUser_carries snapshot stores)

end ApiManger.Experiments
