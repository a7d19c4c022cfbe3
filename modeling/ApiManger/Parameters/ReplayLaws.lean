import ApiManger.Parameters.Rows
import ApiManger.Parameters.WorstCase

/-!
# The laws of a validation

However the hosts answer: the requests stay within the budget, a mutation is not sent again unless
the answer proves that it was not executed, the rows are one per relation, and a plan is only
verified where all of its rows are.
-/

namespace ApiManger.Parameters
open Python Collection

/-! ## Requests -/

/-- The requests of a loop: those that were sent, and one that raised. -/
def Progress.attempts (q : Progress) : ℕ := q.sent + if q.raised then 1 else 0

/-- All requests of a call, the ones that raise among them. -/
def requestsMade (p : ReplayPlan) (answer : ℕ → Attempt) : ℕ :=
  let source := sourcePhase p.effective answer
  if !p.found then 0
  else if source.raised || (injected p.effective source).items.isEmpty then source.attempts
  else
    let consumer := consumerPhase p.effective answer source.sent
    consumer.attempts + if !consumer.raised && shouldReadAfter p.effective consumer then 1 else 0

/-- What came of the requests to the consumer. -/
def consumerAttempts (p : ReplayPlan) (answer : ℕ → Attempt) : List Attempt :=
  let source := sourcePhase p.effective answer
  if !p.found || source.raised || (injected p.effective source).items.isEmpty then []
  else
    let consumer := consumerPhase p.effective answer source.sent
    (List.range' source.sent (consumer.attempts - source.sent)).map answer

/-- The answer proves that a mutation was not executed. -/
def provesNotExecuted : Attempt → Bool
  | .ok r => mutationHostRetryable r
  | .error _ => false

section
variable {answer : ℕ → Attempt} {goesOn : Reply → Bool} {limit : ℕ}

/-- A loop stays within its limit. -/
theorem tryHosts_attempts_le (hosts : List HostOption) {q : Progress} (running : q.raised = false) :
    (tryHosts answer goesOn limit hosts q).attempts ≤ max q.sent limit := by
  induction hosts generalizing q with
  | nil =>
    rw [tryHosts, Progress.attempts, running]
    exact Nat.le_max_left _ _
  | cons host rest ih =>
    rw [tryHosts]
    split
    · rw [Progress.attempts, running]
      exact Nat.le_max_left _ _
    · next below =>
      cases answer q.sent with
      | error e =>
        simp only [Progress.attempts, ↓reduceIte]
        omega
      | ok r =>
        have more := ih (q := ⟨q.sent + 1, some r, false⟩) rfl
        have one : (⟨q.sent + 1, some r, false⟩ : Progress).attempts ≤ max q.sent limit := by
          simp only [Progress.attempts, Bool.false_eq_true, ↓reduceIte]
          omega
        dsimp only at more ⊢
        split
        · exact one
        · split
          · omega
          · exact one

/-- All requests of a loop but its last were answered so that the next host was to be asked. -/
theorem tryHosts_retried (hosts : List HostOption) {q : Progress} (running : q.raised = false) (i : ℕ)
    (from_ : q.sent ≤ i) (before : i + 1 < (tryHosts answer goesOn limit hosts q).attempts) :
    ∃ r, answer i = .ok r ∧ goesOn r = true := by
  induction hosts generalizing q with
  | nil =>
    rw [tryHosts, Progress.attempts, running, if_neg Bool.false_ne_true] at before
    omega
  | cons host rest ih =>
    rw [tryHosts] at before
    split at before
    · rw [Progress.attempts, running, if_neg Bool.false_ne_true] at before
      omega
    · cases answered : answer q.sent with
      | error e =>
        rw [answered] at before
        simp only [Progress.attempts, ↓reduceIte] at before
        omega
      | ok r =>
        rw [answered] at before
        have last : ¬i + 1 < (⟨q.sent + 1, some r, false⟩ : Progress).attempts := by
          simp only [Progress.attempts, Bool.false_eq_true, ↓reduceIte]
          omega
        dsimp only at before
        split at before
        · exact absurd before last
        · split at before
          · next goes =>
            rcases Nat.eq_or_lt_of_le from_ with here | later
            · rw [← here]
              exact ⟨r, answered, goes⟩
            · exact ih (q := ⟨q.sent + 1, some r, false⟩) rfl later before
          · exact absurd before last

end

section
variable {p : ReplayPlan} {answer : ℕ → Attempt}

theorem sourcePhase_attempts_le : (sourcePhase p.effective answer).attempts ≤ p.effective.budget := by
  have positive := p.effective.budget_pos
  unfold sourcePhase
  split
  · have start : (⟨0, none, false⟩ : Progress).raised = false := rfl
    refine (tryHosts_attempts_le p.effective.sourceOptions start).trans ?_
    dsimp only
    omega
  · exact Nat.zero_le _

theorem consumerPhase_attempts_le {sent : ℕ} (within : sent ≤ p.effective.budget) :
    (consumerPhase p.effective answer sent).attempts ≤ p.effective.budget := by
  have start : (⟨sent, none, false⟩ : Progress).raised = false := rfl
  refine (tryHosts_attempts_le p.effective.consumerOptions start).trans ?_
  dsimp only
  omega

theorem sent_le_attempts (q : Progress) : q.sent ≤ q.attempts := Nat.le_add_right _ _

theorem attempts_of_running {q : Progress} (running : q.raised = false) : q.attempts = q.sent := by
  rw [Progress.attempts, running, if_neg Bool.false_ne_true, Nat.add_zero]

/-- The requests of a call stay within the budget. -/
theorem requestsMade_le : requestsMade p answer ≤ p.effective.budget := by
  have source := @sourcePhase_attempts_le p answer
  have sent := (sent_le_attempts (sourcePhase p.effective answer)).trans source
  have consumer := @consumerPhase_attempts_le p answer _ sent
  unfold requestsMade
  dsimp only
  split
  · exact Nat.zero_le _
  · split
    · exact source
    · split
      · next reads =>
        rw [Bool.and_eq_true, Bool.not_eq_true'] at reads
        have within := (p.effective.shouldReadAfter_within reads.2).2
        rw [attempts_of_running reads.1]
        exact within
      · exact consumer

/-- Where all but the last one are as they should be, at most one is not. -/
theorem countP_range'_le {α : Type} {f : ℕ → α} {bad : α → Bool} (start n : ℕ)
    (good : ∀ i, start ≤ i → i + 1 < start + n → bad (f i) = false) :
    ((List.range' start n).map f).countP bad ≤ 1 := by
  cases n with
  | zero => exact Nat.zero_le _
  | succ n =>
    have none_ : ((List.range' start n).map f).countP bad = 0 := by
      refine List.countP_eq_zero.mpr fun a mem => ?_
      obtain ⟨i, among, rfl⟩ := List.mem_map.mp mem
      have bounds := List.mem_range'_1.mp among
      rw [good i bounds.1 (by omega)]
      exact Bool.false_ne_true
    rw [List.range'_concat, List.map_append, List.countP_append, none_, Nat.zero_add]
    exact List.countP_le_length

/-- A mutation is sent again only where the answer proves that it was not executed. -/
theorem consumerAttempts_unproved (mutates : p.effective.mutates = true) :
    (consumerAttempts p answer).countP (fun a => !provesNotExecuted a) ≤ 1 := by
  unfold consumerAttempts
  dsimp only
  split
  · exact Nat.zero_le _
  · refine countP_range'_le _ _ fun i from_ before => ?_
    have start : (⟨(sourcePhase p.effective answer).sent, none, false⟩ : Progress).raised = false := rfl
    unfold consumerPhase at before
    rw [mutates, if_pos rfl] at before
    have within : i + 1 < (tryHosts answer mutationHostRetryable p.effective.budget p.effective.consumerOptions
        ⟨(sourcePhase p.effective answer).sent, none, false⟩).attempts := by omega
    obtain ⟨r, answered, retried⟩ := tryHosts_retried p.effective.consumerOptions start i from_ within
    rw [answered, provesNotExecuted, retried]
    rfl

end
/-! ## Rows -/

section
variable {sha256 : Json → String} {p : ReplayPlan} {source : Progress}

theorem manualItems_keys (q : ValidationPlan) :
    (manualItems q).map Prod.fst = (q.relations.filter fun m => m.manualValue.isSome).map RelationMapping.relationId := by
  unfold manualItems
  induction q.relations with
  | nil => rfl
  | cons m rest ih => cases given : m.manualValue <;> simp [given, ih]

theorem extractedItems_keys (q : ValidationPlan) (document : Json) :
    (extractedItems q document).map Prod.fst = ((q.relations.filter fun m => m.manualValue.isNone).filter fun m =>
      (extractedValue m document).isSome).map RelationMapping.relationId := by
  unfold extractedItems
  induction q.relations.filter fun m => m.manualValue.isNone with
  | nil => rfl
  | cons m rest ih => cases found : extractedValue m document <;> simp [found, ih]

theorem missingRow_keys (status : ValidationStatus) (ms : List RelationMapping) :
    (ms.map (missingRow status)).map Prod.fst = ms.map RelationMapping.relationId := by
  rw [List.map_map]
  rfl

/-- The relations an operator gave no value for. -/
def unset (p : ReplayPlan) : List RelationMapping := p.mappings.filter fun m => m.manualValue.isNone

theorem unset_of_not_needsSource (needs : ¬p.effective.needsSource = true) : unset p = [] := by
  refine List.filter_eq_nil_iff.mpr fun m mem none_ => needs ?_
  exact List.any_eq_true.mpr ⟨m, mem, none_⟩

theorem sourceRows_keys_of_ok (ok : (sourceEvidence source).ok = true) :
    (sourceRows p source).map Prod.fst = ((unset p).filter fun m =>
      !(extractedValue m (sourceEvidence source).document).isSome).map RelationMapping.relationId := by
  unfold sourceRows
  by_cases needs : p.effective.needsSource = true
  · rw [needs, if_neg (by decide), if_pos ok, missingRow_keys, unset, List.filter_filter]
    congr 1
    refine List.filter_congr fun m _ => ?_
    rw [Option.not_isSome, Bool.and_comm]
  · rw [unset_of_not_needsSource needs, if_pos (by rw [Bool.not_eq_true] at needs; rw [needs]; rfl)]
    rfl

theorem sourceRows_keys_of_failed (distinct : (p.mappings.map RelationMapping.relationId).Nodup)
    (failed : ¬(sourceEvidence source).ok = true) :
    (sourceRows p source).map Prod.fst = (unset p).map RelationMapping.relationId := by
  unfold sourceRows
  by_cases needs : p.effective.needsSource = true
  · rw [needs, if_neg (by decide), if_neg failed, missingRow_keys, unset, manualItems_keys]
    congr 1
    refine List.filter_congr fun m mem => ?_
    rw [Bool.eq_iff_iff, Bool.not_eq_true', ← Bool.not_eq_true, List.contains_iff_mem, Option.isNone_iff_eq_none]
    constructor
    · intro absent
      by_contra given
      apply absent
      refine List.mem_map_of_mem (List.mem_filter.mpr ⟨mem, ?_⟩)
      exact Option.isSome_iff_ne_none.mpr given
    · intro none_ among
      obtain ⟨m', given, same⟩ := List.mem_map.mp among
      obtain ⟨mem', isSome⟩ := List.mem_filter.mp given
      rw [List.inj_on_of_nodup_map distinct mem' mem same, none_] at isSome
      exact Bool.false_ne_true isSome
  · rw [unset_of_not_needsSource needs, if_pos (by rw [Bool.not_eq_true] at needs; rw [needs]; rfl)]
    rfl

/-- The relations with a value and those with a row from the source are all relations, each once. -/
theorem all_keys (distinct : (p.mappings.map RelationMapping.relationId).Nodup) :
    ((sourceRows p source).map Prod.fst ++ (recordItems p.effective source).map Prod.fst).Perm
      (p.mappings.map RelationMapping.relationId) := by
  have none_ : p.mappings.filter (fun m => !m.manualValue.isSome) = unset p :=
    List.filter_congr fun m _ => Option.not_isSome _
  have whole := (List.filter_append_perm (fun m : RelationMapping => m.manualValue.isSome) p.mappings).map
    RelationMapping.relationId
  rw [none_, List.map_append] at whole
  unfold recordItems
  rw [List.map_append, manualItems_keys]
  by_cases ok : (sourceEvidence source).ok = true
  · have split := (List.filter_append_perm (fun m : RelationMapping =>
      (extractedValue m (sourceEvidence source).document).isSome) (unset p)).map RelationMapping.relationId
    rw [List.map_append] at split
    rw [if_pos ok, extractedItems_keys, sourceRows_keys_of_ok ok]
    refine List.perm_append_comm.trans ?_
    rw [List.append_assoc]
    exact (split.append_left _).trans whole
  · rw [if_neg ok, sourceRows_keys_of_failed distinct ok, List.map_nil, List.append_nil]
    exact List.perm_append_comm.trans whole

theorem recordItems_distinct (distinct : (p.mappings.map RelationMapping.relationId).Nodup) :
    Distinct Prod.fst (recordItems p.effective source) :=
  (List.nodup_append.mp ((all_keys distinct).nodup_iff.mpr distinct)).2.1

theorem sourceRows_named : ∀ e ∈ sourceRows p source, e.2.relationId = e.1 := by
  intro e mem
  unfold sourceRows at mem
  split at mem
  · cases mem
  · split at mem <;>
    · obtain ⟨m, -, rfl⟩ := List.mem_map.mp mem
      rfl

/-- The rows of the source and the rows of the values are one per relation. -/
theorem rowList_perm (distinct : (p.mappings.map RelationMapping.relationId).Nodup)
    {row : String × Injected → String × RelationRow} (keyed : ∀ e, (row e).1 = e.1)
    (named : ∀ e, (row e).2.relationId = e.1) :
    rowList (sourceRows p source ++ (injected p.effective source).items.map row) =
        (sourceRows p source ++ (injected p.effective source).items.map row).map Prod.snd ∧
      ((rowList (sourceRows p source ++ (injected p.effective source).items.map row)).map RelationRow.relationId).Perm
        (p.mappings.map RelationMapping.relationId) := by
  have records := Mapping.ofItems_items (@recordItems_distinct p source distinct)
  have keys : ((recordItems p.effective source).map row).map Prod.fst = (recordItems p.effective source).map Prod.fst := by
    rw [List.map_map]
    exact List.map_congr_left fun e _ => keyed e
  have perm := @all_keys p source distinct
  rw [← keys, ← List.map_append] at perm
  have items := Mapping.ofItems_items (perm.nodup_iff.mpr distinct)
  rw [injected, records]
  have list : rowList (sourceRows p source ++ (recordItems p.effective source).map row) =
      (sourceRows p source ++ (recordItems p.effective source).map row).map Prod.snd := by
    rw [rowList, items]
  refine ⟨list, ?_⟩
  have each : ∀ e ∈ sourceRows p source ++ (recordItems p.effective source).map row,
      (RelationRow.relationId ∘ Prod.snd) e = e.1 := by
    intro e mem
    rcases List.mem_append.mp mem with early | after
    · exact sourceRows_named e early
    · obtain ⟨record, -, rfl⟩ := List.mem_map.mp after
      exact (named record).trans (keyed record).symm
  rw [list, List.map_map, List.map_congr_left each]
  exact perm

end

/-! ## Results -/

/-- How a call may end. -/
inductive Ends (sha256 : Json → String) (p : ReplayPlan) (answer : ℕ → Attempt) : ReplayResult → Prop
  | notFound : Ends sha256 p answer ⟨false, .snapshotFailed, 0, .notChecked, none⟩
  | withoutValues (empty : (injected p.effective (sourcePhase p.effective answer)).items = []) :
      Ends sha256 p answer (withoutValues p (sourcePhase p.effective answer))
  | withoutConsumer : Ends sha256 p answer (withoutConsumer p (sourcePhase p.effective answer))
  | afterConsumer (consumer : Progress) (reply : Reply) (after : Option Reply)
      (present : (injected p.effective (sourcePhase p.effective answer)).items ≠ []) :
      Ends sha256 p answer (afterConsumer sha256 p (sourcePhase p.effective answer) consumer reply after)

section
variable {sha256 : Json → String} {p : ReplayPlan} {answer : ℕ → Attempt} {result : ReplayResult}

theorem replay_ends (returned : replayParameterValidation sha256 p answer = some result) : Ends sha256 p answer result := by
  unfold replayParameterValidation at returned
  split at returned
  · cases returned
    exact .notFound
  · dsimp only at returned
    split at returned
    · cases returned
    · split at returned
      · next empty =>
        cases returned
        exact .withoutValues (List.isEmpty_iff.mp empty)
      · next present =>
        have present := fun empty => present (List.isEmpty_iff.mpr empty)
        split at returned
        · cases returned
        · split at returned
          · cases returned
            exact .withoutConsumer
          · split at returned
            · split at returned
              · cases returned
              · cases returned
                exact .afterConsumer _ _ _ present
            · cases returned
              exact .afterConsumer _ _ _ present

theorem requestFailureStatus_fails (role : Role) (r : Reply) (remaining exhausted mutation : Bool) :
    (requestFailureStatus role r remaining exhausted mutation).success = false := by
  unfold requestFailureStatus
  split
  · rfl
  · split
    · rfl
    · split
      · rfl
      · generalize ((if mutation then mutationHostRetryable r else readHostRetryable r) && remaining && exhausted) = retry
        split <;> rfl

/-- The statuses of a plan that went through. -/
def ValidationStatus.throughout (s : ValidationStatus) : Prop :=
  s = .verified ∨ s = .mutationVerified ∨ s = .mutationAccepted

theorem throughout_success {s : ValidationStatus} (through : s.throughout) : s.success = true := by
  rcases through with rfl | rfl | rfl <;> rfl

/-- What goes through was answered well, and no row is left. -/
theorem overallStatus_throughout {mutates : Bool} {source consumer : Progress} {reply : Reply} {effect : EffectStatus}
    {successes defects unresolved : ℕ}
    (through : (overallStatus mutates (consumerEnd p source consumer reply) effect successes defects
      unresolved).throughout) : reply.ok = true ∧ (successes = 0 ∨ unresolved = 0) := by
  unfold overallStatus at through
  split at through
  · exact absurd (throughout_success through) Bool.false_ne_true
  · next partly =>
    refine ⟨?_, ?_⟩
    · split at through
      · rcases through with h | h | h <;> cases h
      · split at through
        · exact absurd (throughout_success through) Bool.false_ne_true
        · split at through
          · have fails := throughout_success through
            rw [consumerEnd, requestFailureStatus_fails] at fails
            exact absurd fails Bool.false_ne_true
          · next ok =>
            rw [Bool.not_eq_true', Bool.not_eq_false] at ok
            exact ok
    · by_contra both
      rw [not_or] at both
      exact partly both

/-- Every relation with a value succeeds where the consumer answers well. -/
theorem relationStatus_success {mutates : Bool} {source consumer : Progress} {reply : Reply} (ok : reply.ok = true)
    (effect : EffectStatus) : (relationStatus mutates (consumerEnd p source consumer reply) effect).success = true := by
  have answered : (consumerEnd p source consumer reply).reply.ok = true := ok
  have open_ : (consumerEnd p source consumer reply).hostScopeApproval = false := by
    rw [consumerEnd, ok]
    rfl
  unfold relationStatus
  rw [answered, open_]
  simp only [Bool.not_true, Bool.false_and, Bool.false_eq_true, ↓reduceIte]
  split
  · rfl
  · split <;> rfl

/-- The rows of a call are one per relation. -/
theorem ends_rows (distinct : (p.mappings.map RelationMapping.relationId).Nodup) (ends : Ends sha256 p answer result)
    {rows : List RelationRow} (shown : result.rows = some rows) :
    (rows.map RelationRow.relationId).Perm (p.mappings.map RelationMapping.relationId) := by
  cases ends with
  | notFound => cases shown
  | withoutValues empty =>
    cases shown
    split
    · have keys := missingRow_keys .valueNotFound p.mappings
      have items := Mapping.ofItems_items (show Distinct Prod.fst _ from keys ▸ distinct)
      rw [rowList, items, List.map_map, List.map_map]
      exact .refl _
    · have both := (@rowList_perm p (sourcePhase p.effective answer) distinct unsentRow (fun _ => rfl) fun _ => rfl).2
      rwa [empty, List.map_nil, List.append_nil] at both
  | withoutConsumer =>
    cases shown
    exact (rowList_perm distinct (fun _ => rfl) fun _ => rfl).2
  | afterConsumer consumer reply after =>
    cases shown
    exact (rowList_perm distinct (fun _ => rfl) fun _ => rfl).2

/-- Where a plan goes through, all of its rows do. -/
theorem ends_success (distinct : (p.mappings.map RelationMapping.relationId).Nodup)
    (ends : Ends sha256 p answer result) {rows : List RelationRow} (shown : result.rows = some rows)
    (through : result.status.throughout) : ∀ row ∈ rows, row.status.success = true := by
  cases ends with
  | notFound => cases shown
  | withoutValues empty =>
    have fails := throughout_success through
    unfold withoutValues at fails
    dsimp only at fails
    split at fails
    · rw [sourceStatus, requestFailureStatus_fails] at fails
      cases fails
    · cases fails
  | withoutConsumer => rcases through with h | h | h <;> cases h
  | afterConsumer consumer reply after present =>
    cases shown
    obtain ⟨ok, settled⟩ := overallStatus_throughout through
    have success : ∀ e ∈ (injected p.effective (sourcePhase p.effective answer)).items.map
        (sentRow sha256 p (consumerEnd p (sourcePhase p.effective answer) consumer reply) after),
        e.2.status.success = true := by
      intro e mem
      obtain ⟨record, -, rfl⟩ := List.mem_map.mp mem
      exact relationStatus_success ok _
    rw [List.countP_eq_length.mpr success, List.length_map] at settled
    have some_ := List.length_pos_iff.mpr present
    have list := (@rowList_perm p (sourcePhase p.effective answer) distinct
      (sentRow sha256 p (consumerEnd p (sourcePhase p.effective answer) consumer reply) after)
      (fun _ => rfl) fun _ => rfl).1
    rw [list, List.length_map, List.length_append, List.length_map] at settled
    -- a relation without a value would be left over
    have none_ : sourceRows p (sourcePhase p.effective answer) = [] := by
      apply List.eq_nil_of_length_eq_zero
      omega
    rw [list, none_, List.nil_append]
    intro row mem
    obtain ⟨e, among, rfl⟩ := List.mem_map.mp mem
    exact success e among

end

/-! ## The number of requests -/

section
variable {answer : ℕ → Attempt} {goesOn : Reply → Bool} {limit : ℕ}

theorem tryHosts_last_isSome (hosts : List HostOption) {q : Progress} (replied : q.last.isSome = true) :
    (tryHosts answer goesOn limit hosts q).last.isSome = true := by
  induction hosts generalizing q with
  | nil => exact replied
  | cons host rest ih =>
    rw [tryHosts]
    split
    · exact replied
    · cases answer q.sent with
      | error e => exact replied
      | ok r =>
        dsimp only
        split
        · rfl
        · split
          · exact ih rfl
          · rfl

/-- A loop without a reply has sent nothing. -/
theorem tryHosts_sent_of_last (hosts : List HostOption) {q : Progress}
    (none_ : (tryHosts answer goesOn limit hosts q).last = none) :
    (tryHosts answer goesOn limit hosts q).sent = q.sent := by
  cases hosts with
  | nil => rfl
  | cons host rest =>
    rw [tryHosts] at none_ ⊢
    split
    · rfl
    · next below =>
      rw [if_neg below] at none_
      cases answered : answer q.sent with
      | error e => rfl
      | ok r =>
        rw [answered] at none_
        dsimp only at none_
        split at none_
        · cases none_
        · split at none_
          · have replied : (tryHosts answer goesOn limit rest ⟨q.sent + 1, some r, false⟩).last.isSome = true :=
              tryHosts_last_isSome rest rfl
            rw [none_] at replied
            cases replied
          · cases none_

end

section
variable {sha256 : Json → String} {p : ReplayPlan} {answer : ℕ → Attempt} {result : ReplayResult}

/-- The requests a result counts are all that were made. -/
theorem replay_counted (returned : replayParameterValidation sha256 p answer = some result) :
    result.requestCount = requestsMade p answer := by
  unfold replayParameterValidation at returned
  unfold requestsMade
  split at returned
  · next missing =>
    cases returned
    rw [if_pos missing]
  · next found =>
    dsimp only at returned ⊢
    rw [if_neg found]
    split at returned
    · cases returned
    · next ran =>
      rw [Bool.not_eq_true] at ran
      rw [ran, Bool.false_or]
      split at returned
      · next empty =>
        cases returned
        rw [if_pos empty, attempts_of_running ran]
        rfl
      · next present =>
        rw [if_neg present]
        split at returned
        · cases returned
        · next ran' =>
          rw [Bool.not_eq_true] at ran'
          rw [ran', attempts_of_running ran', Bool.not_false, Bool.true_and]
          split at returned
          · next last =>
            cases returned
            have sent := tryHosts_sent_of_last _ last
            have unread : shouldReadAfter p.effective
                (consumerPhase p.effective answer (sourcePhase p.effective answer).sent) = false := by
              rw [shouldReadAfter, last]
              exact Bool.and_false _
            rw [unread]
            exact sent.symm
          · split at returned
            · next reads =>
              rw [reads]
              split at returned
              · cases returned
              · cases returned
                rfl
            · next unread =>
              cases returned
              rw [if_neg unread]
              rfl

end

/-- The laws of a call. -/
structure ReplayLaws (sha256 : Json → String) (p : ReplayPlan) (answer : ℕ → Attempt) : Prop where
  budget : requestsMade p answer ≤ p.effective.budget
  counted : ∀ result, replayParameterValidation sha256 p answer = some result →
    result.requestCount = requestsMade p answer
  mutation : p.effective.mutates = true → (consumerAttempts p answer).countP (fun a => !provesNotExecuted a) ≤ 1
  rows : ∀ result rows, replayParameterValidation sha256 p answer = some result → result.rows = some rows →
    (rows.map RelationRow.relationId).Perm (p.mappings.map RelationMapping.relationId)
  success : ∀ result rows, replayParameterValidation sha256 p answer = some result → result.rows = some rows →
    (result.status = .verified ∨ result.status = .mutationVerified ∨ result.status = .mutationAccepted) →
    ∀ row ∈ rows, row.status.success = true

/-- **Laws of a validation.** Whatever the hosts and the answers: the requests stay within the budget, at most
one request of a mutation is left without a proof that it was not executed, the rows are one per relation,
and a plan goes through only where every row does. -/
theorem replay_laws (sha256 : Json → String) (p : ReplayPlan)
    (distinct : (p.mappings.map RelationMapping.relationId).Nodup) (answer : ℕ → Attempt) :
    ReplayLaws sha256 p answer where
  budget := requestsMade_le
  counted _ returned := replay_counted returned
  mutation := consumerAttempts_unproved
  rows _ _ returned shown := ends_rows distinct (replay_ends returned) shown
  success _ _ returned shown through := ends_success distinct (replay_ends returned) shown through

/-- A plan that deletes an order by its number, which the source is asked for. -/
def deleteOrder : ReplayPlan where
  plan := ⟨[⟨"r1", "order_no", [.property "order_no" false], none⟩], [], [], ⟨"a.test", "https://a.test"⟩,
    ⟨"a.test", "https://a.test"⟩, "DELETE", true, 3, 3, 20, false⟩
  own := ⟨"", "", [], none⟩
  found := true
  availableSourceHostCount := 1
  availableConsumerHostCount := 1

theorem replay_laws_deleteOrder :
    ReplayLaws Json.pyRepr deleteOrder fun _ => .ok ⟨true, some 200, "", false, .obj [("order_no", .int 7)]⟩ :=
  replay_laws Json.pyRepr deleteOrder (by decide) _

end ApiManger.Parameters
