import ApiManger.Parameters.Replay

/-!
# The most requests of a validation

`mostRequests` counts a host for every request a plan can make: the source hosts,
the consumer hosts and the read after a mutation, cut at the budget. No behaviour of
the hosts leads to more, and `reluctant` leads to as many: every host but the last
that may be asked does not know the route, and the last one answers well.
-/

namespace ApiManger.Parameters
open Python

/-- The most requests within a budget, to so many hosts of the source, so many of the consumer, and after it. -/
def mostRequestsWithin (budget source consumer after : ℕ) : ℕ :=
  min budget (min source (max 1 (budget - 1)) + consumer + after)

namespace ValidationPlan

/-- The hosts of the source that the plan has use for. -/
def sourceCount (p : ValidationPlan) : ℕ := if p.needsSource then p.sourceOptions.length else 0

/-- The reads after the consumer. -/
def afterCount (p : ValidationPlan) : ℕ := if p.mutates then 1 else 0

def mostRequests (p : ValidationPlan) : ℕ :=
  mostRequestsWithin p.budget p.sourceCount p.consumerOptions.length p.afterCount

end ValidationPlan

/-! ## No more -/

section
variable {answer : ℕ → Attempt} {goesOn : Reply → Bool} {limit : ℕ}

/-- A loop over hosts sends at most one request to each, and stops at its limit. -/
theorem tryHosts_sent_le (hosts : List HostOption) (p : Progress) :
    (tryHosts answer goesOn limit hosts p).sent ≤ max p.sent (min limit (p.sent + hosts.length)) := by
  induction hosts generalizing p with
  | nil => exact Nat.le_max_left _ _
  | cons host rest ih =>
    simp only [tryHosts, List.length_cons]
    split
    · omega
    · split
      · exact Nat.le_max_left _ _
      · have more := ih ⟨p.sent + 1, some ‹Reply›, false⟩
        split
        · simp only; omega
        · split
          · simp only at more ⊢; omega
          · simp only; omega

end

namespace ValidationPlan
variable (p : ValidationPlan) (answer : ℕ → Attempt)

theorem budget_pos : 1 ≤ p.budget := by
  unfold budget
  omega

theorem sourcePhase_sent_le : (sourcePhase p answer).sent ≤ min p.sourceCount (max 1 (p.budget - 1)) := by
  unfold sourcePhase sourceCount
  split
  · have bound : (tryHosts answer readHostRetryable (max 1 (p.budget - 1)) p.sourceOptions ⟨0, none, false⟩).sent ≤
        max 0 (min (max 1 (p.budget - 1)) (0 + p.sourceOptions.length)) := tryHosts_sent_le p.sourceOptions _
    omega
  · exact Nat.zero_le _

theorem consumerPhase_sent_le (sent : ℕ) :
    (consumerPhase p answer sent).sent ≤ max sent (min p.budget (sent + p.consumerOptions.length)) :=
  tryHosts_sent_le p.consumerOptions ⟨sent, none, false⟩

/-- The read after a mutation stays within the budget. -/
theorem shouldReadAfter_within {consumer : Progress} (reads : shouldReadAfter p consumer = true) :
    p.afterCount = 1 ∧ consumer.sent + 1 ≤ p.budget := by
  simp only [shouldReadAfter, Bool.and_eq_true, decide_eq_true_eq] at reads
  obtain ⟨⟨mutates, below⟩, -⟩ := reads
  exact ⟨by rw [afterCount, mutates, if_pos rfl], below⟩

/-- No behaviour of the hosts leads to more requests. -/
theorem businessRequests_le : businessRequests p answer ≤ p.mostRequests := by
  have budget := p.budget_pos
  have source := sourcePhase_sent_le p answer
  have consumer := consumerPhase_sent_le p answer (sourcePhase p answer).sent
  unfold businessRequests mostRequests mostRequestsWithin
  dsimp only
  split
  · omega
  · split
    · omega
    · next ends =>
      have reads : shouldReadAfter p (consumerPhase p answer (sourcePhase p answer).sent) = true := by
        simp only [Bool.or_eq_true, not_or, Bool.not_eq_true', Bool.not_eq_false] at ends
        exact ends.2
      obtain ⟨after, within⟩ := shouldReadAfter_within p reads
      split <;> omega

end ValidationPlan

/-! ## As many -/

/-- A host that does not know the route. -/
def unrouted : Reply := { ok := false, statusCode := some 404 }

theorem unrouted_retryable (mutates : Bool) :
    (if mutates then mutationHostRetryable else readHostRetryable) unrouted = true := by
  cases mutates <;> decide

section
variable {answer : ℕ → Attempt} {goesOn : Reply → Bool} {limit : ℕ} {good : Reply}

/-- Where the `k`-th host is the first one to answer well, `k` requests are sent. -/
theorem tryHosts_reaches (k : ℕ) (hosts : List HostOption) (p : Progress) (some_host : 1 ≤ k)
    (hosted : k ≤ hosts.length) (within : p.sent + k ≤ limit) (retried : goesOn unrouted = true)
    (before : ∀ i, p.sent ≤ i → i + 1 < p.sent + k → answer i = .ok unrouted)
    (last : answer (p.sent + k - 1) = .ok good) (ok : good.ok = true) :
    tryHosts answer goesOn limit hosts p = ⟨p.sent + k, some good, false⟩ := by
  induction k generalizing hosts p with
  | zero => exact absurd some_host (by decide)
  | succ k ih =>
    cases hosts with
    | nil => exact absurd hosted (by simp)
    | cons host rest =>
      have below : ¬ limit ≤ p.sent := by omega
      rw [tryHosts, if_neg below]
      cases k with
      | zero =>
        have answered : answer p.sent = .ok good := by simpa using last
        simp only [answered, ok, ↓reduceIte, Nat.zero_add]
      | succ k =>
        have answered := before p.sent (Nat.le_refl _) (by omega)
        simp only [answered, retried, ↓reduceIte]
        rw [if_neg (by decide), ih rest ⟨p.sent + 1, some unrouted, false⟩ (by omega) (by simpa using hosted)
          (by simp only; omega) (fun i h h' => before i (by simp only at h; omega) (by simp only at h'; omega))
          (by simpa only [Nat.add_assoc, Nat.add_comm 1] using last)]
        simp only [Progress.mk.injEq, and_true]
        omega

end

namespace ValidationPlan
variable (p : ValidationPlan)

/-- An answer of the source that names the first field asked of it. -/
def named : Reply :=
  { ok := true, statusCode := some 200
    document := .obj ((p.relations.find? fun m => m.manualValue.isNone).toList.map fun m => (m.canonicalName, .int 1)) }

/-- The source's last request. -/
def lastSource : ℕ := min p.sourceCount (max 1 (p.budget - 1))

/-- The consumer's last request. -/
def lastConsumer : ℕ := p.lastSource + min p.consumerOptions.length (p.budget - p.lastSource)

/-- Every host but the last that may be asked does not know the route. -/
def reluctant : ℕ → Attempt := fun i =>
  if i + 1 = p.lastSource ∨ p.lastConsumer ≤ i + 1 then .ok p.named else .ok unrouted

theorem consumerOptions_pos : 1 ≤ p.consumerOptions.length := by
  unfold consumerOptions
  split
  · exact Nat.le_refl _
  · next hosts => exact List.length_pos_iff.2 fun empty => hosts (by rw [empty]; rfl)

theorem sourceOptions_pos : 1 ≤ p.sourceOptions.length := by
  unfold sourceOptions
  split
  · exact Nat.le_refl _
  · next hosts => exact List.length_pos_iff.2 fun empty => hosts (by rw [empty]; rfl)

theorem fallbackValues_named (name : String) (value : Int) :
    fallbackValues (.obj [(name, .int value)]) name = [.int value] := by
  simp [fallbackValues, walkByName, walkFields, valueLimit]

/-- The answer of the source has a value for the field. -/
theorem named_extracted {m : RelationMapping} (first : p.relations.find? (fun m => m.manualValue.isNone) = some m) :
    (extractedValue m p.named.document).isSome := by
  have document : p.named.document = .obj [(m.canonicalName, .int 1)] := by simp [named, first]
  rw [document, extractedValue]
  have found := fallbackValues_named m.canonicalName 1
  have nonempty : ∀ values : List Json, values ≠ [] → (if values.isEmpty then none
      else if endsWith m.canonicalName "_ids" then some (.arr values) else values.head?).isSome := by
    intro values some_value
    cases values with
    | nil => exact absurd rfl some_value
    | cons value rest => simp only [List.isEmpty_cons, Bool.false_eq_true, ↓reduceIte]; split <;> rfl
  apply nonempty
  split
  · rw [found]; exact List.cons_ne_nil _ _
  · next located => exact fun empty => located (by rw [empty]; rfl)

theorem named_ok : p.named.ok = true := rfl

theorem lastSource_le : p.lastSource ≤ p.budget := by
  have budget := p.budget_pos
  unfold lastSource
  omega

/-- The source answers well at its last request, and has a value. -/
theorem sourcePhase_reluctant : (sourcePhase p p.reluctant).sent = p.lastSource ∧
    (sourcePhase p p.reluctant).raised = false ∧
    (p.relations ≠ [] → (valueRecords p (sourcePhase p p.reluctant)).isEmpty = false) := by
  cases needs : p.needsSource with
  | false =>
    have phase : sourcePhase p p.reluctant = ⟨0, none, false⟩ := by simp [sourcePhase, needs]
    refine ⟨by simp [phase, lastSource, sourceCount, needs], by rw [phase], fun related => ?_⟩
    have given : ∀ m ∈ p.relations, m.manualValue ≠ none := by simpa [needsSource] using needs
    obtain ⟨m, rest, relations⟩ := List.exists_cons_of_ne_nil related
    obtain ⟨value, isValue⟩ := Option.ne_none_iff_exists'.1 (given m (by simp [relations]))
    simp [valueRecords, manualRecords, relations, isValue]
  | true =>
    have hosts := p.sourceOptions_pos
    have budget := p.budget_pos
    have last : p.lastSource = min p.sourceOptions.length (max 1 (p.budget - 1)) := by
      simp [lastSource, sourceCount, needs]
    have phase : sourcePhase p p.reluctant = ⟨p.lastSource, some p.named, false⟩ := by
      have reached : tryHosts p.reluctant readHostRetryable (max 1 (p.budget - 1)) p.sourceOptions ⟨0, none, false⟩ =
          ⟨0 + p.lastSource, some p.named, false⟩ := by
        refine tryHosts_reaches p.lastSource p.sourceOptions _ (by omega) (by omega) (by simp only; omega) (by decide)
          (fun i _ before => ?_) (if_pos (by simp only; omega)) p.named_ok
        simp only at before
        have consumer : p.lastSource ≤ p.lastConsumer := Nat.le_add_right _ _
        exact if_neg (by omega)
      simpa [sourcePhase, needs] using reached
    refine ⟨by rw [phase], by rw [phase], fun _ => ?_⟩
    obtain ⟨m, first⟩ := Option.isSome_iff_exists.1
      (show (p.relations.find? fun m => m.manualValue.isNone).isSome by simpa [needsSource] using needs)
    obtain ⟨value, isValue⟩ := Option.isSome_iff_exists.1 (p.named_extracted first)
    have member := List.mem_of_find?_eq_some first
    have fetched := List.find?_some first
    have record : (⟨m.relationId, value⟩ : ValueRecord) ∈ valueRecords p (sourcePhase p p.reluctant) := by
      rw [phase, valueRecords, List.mem_append]
      refine Or.inr ?_
      simp only [named_ok, ↓reduceIte, extractedRecords, List.mem_filterMap, List.mem_filter]
      exact ⟨m, ⟨member, fetched⟩, by rw [isValue]; rfl⟩
    exact List.isEmpty_eq_false_iff.2 (List.ne_nil_of_mem record)

/-- The consumer answers well at its last request. -/
theorem consumerPhase_reluctant (within : p.lastSource < p.budget) :
    consumerPhase p p.reluctant p.lastSource = ⟨p.lastConsumer, some p.named, false⟩ := by
  have hosts := p.consumerOptions_pos
  refine tryHosts_reaches (min p.consumerOptions.length (p.budget - p.lastSource)) p.consumerOptions
    ⟨p.lastSource, none, false⟩ (by omega) (by omega) (by simp only; omega) (unrouted_retryable p.mutates)
    (fun i from_source before => if_neg ?_) (if_pos ?_) p.named_ok
  · simp only at from_source before
    unfold lastConsumer
    omega
  · simp only [lastConsumer]
    omega

/-- Where the source has used up the budget, the consumer is not asked. -/
theorem consumerPhase_exhausted {answer : ℕ → Attempt} {sent : ℕ} (exhausted : p.budget ≤ sent) :
    (consumerPhase p answer sent).sent = sent := by
  unfold consumerPhase
  cases p.consumerOptions with
  | nil => rfl
  | cons host rest => rw [tryHosts, if_pos exhausted]

/-- These hosts lead to the most requests. -/
theorem businessRequests_reluctant (related : p.relations ≠ []) :
    businessRequests p p.reluctant = p.mostRequests := by
  obtain ⟨sent, raised, values⟩ := p.sourcePhase_reluctant
  have hosts := p.consumerOptions_pos
  have kept := p.lastSource_le
  unfold businessRequests mostRequests mostRequestsWithin
  dsimp only
  rw [raised, values related, sent, ← lastSource, Bool.false_or, if_neg (by decide)]
  by_cases within : p.lastSource < p.budget
  · have consumer : p.lastConsumer = p.lastSource + min p.consumerOptions.length (p.budget - p.lastSource) := rfl
    have reads : shouldReadAfter p ⟨p.lastConsumer, some p.named, false⟩ =
        (p.mutates && decide (p.lastConsumer < p.budget)) := by simp [shouldReadAfter, named_ok]
    have after : p.reluctant p.lastConsumer = .ok p.named := if_pos (Or.inr (Nat.le_succ _))
    simp only [p.consumerPhase_reluctant within, reads, after, Bool.false_or]
    cases mutates : p.mutates with
    | false =>
      simp only [afterCount, mutates, Bool.false_and, Bool.not_false, ↓reduceIte, Bool.false_eq_true]
      omega
    | true =>
      simp only [afterCount, mutates, Bool.true_and, ↓reduceIte, Bool.not_eq_true', decide_eq_false_iff_not]
      split <;> omega
  · have unasked : (consumerPhase p p.reluctant p.lastSource).sent = p.lastSource :=
      p.consumerPhase_exhausted (Nat.le_of_not_lt within)
    have unread : shouldReadAfter p (consumerPhase p p.reluctant p.lastSource) = false := by
      simp [shouldReadAfter, unasked, within]
    rw [unread, unasked, Bool.not_false, Bool.or_true, if_pos rfl]
    omega

end ValidationPlan

end ApiManger.Parameters
