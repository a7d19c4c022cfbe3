import ApiManger.Findings.Retest

/-!
# Verified fixes

The contract of the one caller of `ApiManger.Findings.Retest`: what holds between two
operations of a transition, of scheduling a retest and of evaluating one. Its guarantee
is that a move to `verified_fixed` is justified.
-/

namespace ApiManger.Findings
open Python Store Interleaving

/-! ## The contract of the caller -/

/-- The scheduler keeps the finding, its history, and the retests that are final. -/
structure Beside (s s' : FindingStore) : Prop where
  finding : s'.finding = s.finding
  history : s'.history = s.history
  final : ∀ r ∈ s.runs, r.status.isFinal = true → r ∈ s'.runs ∧ s'.resultsOf r.id = s.resultsOf r.id

/-- One caller, careful, beside the scheduler. -/
def assay : Contract findingDesk where
  guard := sequential.both careful
  known _ := True
  inv := Kept
  guar u s s' := (u = none → Beside s s') ∧ (∀ w, u = some w → w = (0 : Nat)) ∧ VerifiedOnEvidence s s'

variable {φ : FindingStore → Prop} {target : FindingStatus} {run : Option ObjectId} {s s' : FindingStore}

/-- The caller has only the scheduler beside it. -/
theorem stable_of_beside (keeps : ∀ s s', Beside s s' → φ s → φ s') :
    assay.Stable (0 : Nat) φ := by
  intro u other s s' _ _ _ _ guar now
  obtain ⟨environment, zero, _⟩ := guar
  cases u with
  | none => exact keeps s s' (environment rfl) now
  | some w => exact absurd (congrArg some (zero w rfl)) other

/-- What a verification rests on: a finished retest whose results all pass. -/
def Passed (run : Option ObjectId) (s : FindingStore) : Prop :=
  ∃ r ∈ s.runs, run = some r.id ∧ r.isRetestOf s.finding.id = true ∧ r.status.isFinal = true ∧
    (s.resultsOf r.id).length = r.totalCases ∧ ∀ x ∈ s.resultsOf r.id, x.isPass = true

/-- What has to hold for the finding to be moved to `target`. -/
structure Ready (target : FindingStatus) (run : Option ObjectId) (s : FindingStore) : Prop where
  submitted : target = .fixedPendingVerify → ∃ run, Fresh run s.history
  verified : target = .verifiedFixed → Passed run s

theorem ready_beside (beside : Beside s s')
    (ready : Ready target run s) : Ready target run s' := by
  refine ⟨fun is => ?_, fun is => ?_⟩
  · rw [beside.history]
    exact ready.submitted is
  · obtain ⟨r, mem, named, own, final, length, pass⟩ := ready.verified is
    obtain ⟨mem', results⟩ := beside.final r mem final
    exact ⟨r, mem', named, by rw [beside.finding]; exact own, final, by rw [results]; exact length,
      by rw [results]; exact pass⟩

/-- A change of the finding's lists and of the log, at most. -/
def Apart (s s' : FindingStore) : Prop :=
  ∃ finding events, s' = { s with finding := finding, events := events } ∧ finding.id = s.finding.id ∧
    finding.status = s.finding.status

theorem Kept.apart {s s' : FindingStore} (apart : Apart s s') (kept : Kept s) : Kept s' := by
  obtain ⟨finding, events, rfl, sameId, sameStatus⟩ := apart
  have retest : ∀ {r : RetestRun}, r.isRetestOf finding.id = true → r.isRetestOf s.finding.id = true := by
    intro r own
    rwa [← sameId]
  refine ⟨kept.ids, kept.below, kept.resultsBelow, ?_, ?_, ?_, kept.covers, ?_⟩
  · intro r mem own
    exact kept.past r mem (retest own)
  · intro r mem own
    obtain ⟨cases_, once, ours, late⟩ := kept.fits r mem (retest own)
    exact ⟨cases_, once, ours, late⟩
  · intro r mem own
    exact kept.order r mem (retest own)
  · intro pending
    exact kept.pending (sameStatus.symm.trans pending)

/-- The operations that neither move the finding nor schedule a retest. -/
def FindingOp.Clerical : FindingOp → Prop
  | .setStatus .. | .enqueueSnapshotBatch .. => False
  | _ => True

theorem updateFinding_apart {id : ObjectId} {f : VulnerabilityFinding → VulnerabilityFinding}
    (keepsId : ∀ x, (f x).id = x.id) (keeps : ∀ x, (f x).status = x.status) : Apart s (s.updateFinding id f) := by
  unfold FindingStore.updateFinding
  split
  · exact ⟨f s.finding, s.events, rfl, keepsId _, keeps _⟩
  · exact ⟨s.finding, s.events, rfl, rfl, rfl⟩

theorem execFinding_apart {t : Nat} {o : FindingOp} {i : FindingInput}
    {r : Except PyError o.Ret} (exec : execFinding t o i s = some (r, s')) (clerical : o.Clerical) : Apart s s' := by
  cases o with
  | setStatus | enqueueSnapshotBatch => cases clerical
  | saveEvent event =>
    cases exec
    exact ⟨s.finding, s.events ++ [event], rfl, rfl, rfl⟩
  | pushRunId id run =>
    cases exec
    exact updateFinding_apart (fun _ => rfl) (fun _ => rfl)
  | linkResult id result run =>
    cases exec
    exact updateFinding_apart (fun _ => rfl) (fun _ => rfl)
  | find | activeRetest | baselineResults | sourceRuns | latestTerminal | retestRun | runResults | verifyEvent
  | completedRetests | pendingFinding | evaluationMarker =>
    cases exec
    exact ⟨s.finding, s.events, rfl, rfl, rfl⟩

/-- A step that does not move the finding. -/
theorem guar_of_status (status : s'.finding.status = s.finding.status) :
    assay.guar (some (0 : Nat)) s s' := by
  refine ⟨?_, fun w is => (Option.some.inj is).symm, fun other moved => ?_⟩
  · intro none_
    cases none_
  · rw [status] at moved
    exact absurd moved other

/-- A clerical operation, by what it answers. -/
theorem clerical_perform {o : FindingOp} (clerical : o.Clerical)
    {R : o.Ret → FindingStore → Prop} (stable : ∀ r, assay.Stable (0 : Nat) (R r))
    (gives : ∀ s i r s', Apart s s' → φ s → execFinding 0 o i s = some (.ok r, s') → R r s') :
    assay.Safe (0 : Nat) φ (atomic o) R (fun _ _ => True) := by
  refine Contract.Safe.perform stable (fun _ => Contract.Stable.true _) ?_
  intro s i r s' _ kept now _ exec _
  have apart := execFinding_apart exec clerical
  have status : s'.finding.status = s.finding.status := by
    obtain ⟨_, _, rfl, _, same⟩ := apart
    exact same
  refine ⟨kept.apart apart, guar_of_status status, ?_⟩
  cases r with
  | ok r => exact gives s i r s' apart now exec
  | error e => trivial

/-- Clerical code keeps what such changes keep. -/
theorem clerical_safe {α : Type} {p : Prog findingSignature α} (uses : p.Uses FindingOp.Clerical) (stable : assay.Stable (0 : Nat) φ) (keeps : ∀ s s', Apart s s' → φ s → φ s') :
    assay.Safe (0 : Nat) φ p (fun _ => φ) (fun _ _ => True) := by
  refine (Contract.Safe.of_uses uses stable fun o clerical => ?_).weaken (fun _ _ _ now => now)
    (fun _ _ _ _ now => now) (fun _ _ _ _ _ => trivial)
  intro s i r s' _ kept now _ exec _
  have apart := execFinding_apart exec clerical
  have status : s'.finding.status = s.finding.status := by
    obtain ⟨_, _, rfl, _, same⟩ := apart
    exact same
  exact ⟨kept.apart apart, guar_of_status status, keeps s s' apart now⟩

/-! ## The update of a transition -/

/-- Results of the cases of a retest, each case once and as many as there are cases, miss no case. -/
theorem Fits.complete {r : RetestRun} (fits : Fits s r)
    (length : (s.resultsOf r.id).length = r.totalCases) {x : ObjectId} (mem : x ∈ r.snapshotIds) :
    ∃ result ∈ s.resultsOf r.id, result.snapshotId = some x := by
  have sub : (s.resultsOf r.id).map (·.snapshotId) ⊆ r.snapshotIds.map some := by
    intro y mem
    obtain ⟨result, here, rfl⟩ := List.mem_map.mp mem
    exact fits.own result here
  have enough : (r.snapshotIds.map some).length ≤ ((s.resultsOf r.id).map (·.snapshotId)).length := by
    have cases_ := fits.cases_
    simp only [List.length_map]
    omega
  have all := (List.subperm_of_subset fits.once sub).perm_of_length_le enough
  obtain ⟨result, here, is⟩ := List.mem_map.mp (all.mem_iff.mpr (List.mem_map_of_mem mem))
  exact ⟨result, here, is⟩

/-- The newest retest, finished and passed, justifies the fix. -/
theorem Kept.justified (kept : Kept s) (pending : s.finding.status = .fixedPendingVerify)
    {r : RetestRun} (mem : r ∈ s.runs) (own : r.isRetestOf s.finding.id = true) (final : r.status.isFinal = true)
    (newest : lastScheduled s.history = some r.id) (length : (s.resultsOf r.id).length = r.totalCases)
    (pass : ∀ x ∈ s.resultsOf r.id, x.isPass = true) : Justified s r := by
  refine ⟨?_, ?_⟩
  · obtain ⟨run, fresh⟩ := kept.pending pending
    obtain rfl : run = r.id := Option.some.inj (fresh.last.symm.trans newest)
    obtain ⟨before, snapshots, after, is, quiet⟩ := fresh
    refine ⟨before, snapshots, after, is, fun h here => ?_, fun x listed => ?_⟩
    · have stays := quiet h here
      cases h with
      | moved => simpa [Happening.stays, Happening.intoFixing] using stays
      | scheduled => cases stays
    · obtain ⟨r', mem', same, covers⟩ := kept.covers r.id snapshots (by simp [is])
      obtain rfl := kept.unique mem' mem same
      obtain ⟨result, here, of_⟩ := (kept.fits r' mem own).complete length (covers x listed)
      exact ⟨result, here, of_, pass result here⟩
  · intro r' mem' own' final' later
    exfalso
    rcases kept.order r' mem' own' with last | ⟨_, before⟩
    · obtain rfl := kept.unique mem' mem (Option.some.inj (last.symm.trans newest))
      exact absurd later (lt_irrefl _)
    · exact absurd later (not_lt.mpr (before r mem newest final))

/-- A move leaves the runs as they are. -/
theorem Kept.moved (kept : Kept s) {finding : VulnerabilityFinding} {caller : Option Nat}
    {source : Option FindingStatus} (sameId : finding.id = s.finding.id)
    (submitted : finding.status = .fixedPendingVerify → ∃ run, Fresh run s.history) :
    Kept { s with finding := finding, history := s.history ++ [.moved caller source finding.status run] } := by
  have retest : ∀ {r : RetestRun}, r.isRetestOf finding.id = true → r.isRetestOf s.finding.id = true := by
    intro r own
    rwa [← sameId]
  refine ⟨kept.ids, kept.below, kept.resultsBelow, ?_, ?_, ?_, ?_, ?_⟩
  · intro r mem own
    exact kept.past r mem (retest own)
  · intro r mem own
    obtain ⟨cases_, once, ours, late⟩ := kept.fits r mem (retest own)
    exact ⟨cases_, once, ours, late⟩
  · intro r mem own
    show lastScheduled (s.history ++ _) = _ ∨ _
    rw [lastScheduled_moved]
    refine (kept.order r mem (retest own)).imp_right fun done => ⟨done.1, fun l lmem isLast => ?_⟩
    exact done.2 l lmem isLast
  · intro id snapshots listed
    rcases List.mem_append.mp listed with old | new
    · exact kept.covers id snapshots old
    · cases List.mem_singleton.mp new
  · intro pending
    obtain ⟨id, fresh⟩ := submitted pending
    refine ⟨id, fresh.moved ?_⟩
    have is : finding.status = .fixedPendingVerify := pending
    simp [Happening.stays, is]

/-- **The update of a transition** keeps the invariant, and a verification is justified. -/
theorem setStatus_assay (id : ObjectId) {finding : VulnerabilityFinding}
    (valid : target ∈ finding.status.validTransitions) (run : Option ObjectId) :
    assay.Safe (0 : Nat) (fun s => s.finding = finding ∧ Ready target run s)
      (atomic (.setStatus id finding.status target run)) (fun _ _ => True) (fun _ _ => True) := by
  refine Contract.Safe.perform (fun _ => Contract.Stable.true _) (fun _ => Contract.Stable.true _) ?_
  intro s i r s' _ kept now admitted exec _
  obtain ⟨rfl, ready⟩ := now
  have exec : execFinding 0 (.setStatus id s.finding.status target run) i s = some (r, s') := exec
  have done : (Kept s' ∧ assay.guar (some (0 : Nat)) s s') ∧ r = .ok () := by
    by_cases here : s.finding.id = id
    · simp only [execFinding, here] at exec
      cases exec
      refine ⟨⟨?_, ?_⟩, rfl⟩
      · exact kept.moved here.symm ready.submitted
      · refine ⟨?_, fun w is => (Option.some.inj is).symm, fun _ moved => ?_⟩
        · intro none_
          cases none_
        · obtain rfl : target = .verifiedFixed := moved
          obtain ⟨r, mem, named, own, final, length, pass⟩ := ready.verified rfl
          subst named
          have pending : s.finding.status = .fixedPendingVerify := by
            revert valid
            cases s.finding.status <;> simp [FindingStatus.validTransitions]
          have newest : lastScheduled s.history = some r.id := by
            simpa [assay, Guard.both, sequential, careful] using admitted
          exact ⟨r, mem, own, kept.justified pending mem own final newest length pass, some 0, _, rfl⟩
    · simp only [execFinding, here] at exec
      cases exec
      exact ⟨⟨kept, guar_of_status rfl⟩, rfl⟩
  obtain ⟨⟨kept', guar⟩, rfl⟩ := done
  exact ⟨kept', guar, trivial⟩

/-- Nothing need hold to write what a transition without evidence may write. -/
theorem ready_of_ordinary {source : FindingStatus}
    (valid : target ∈ source.validTransitions) (ordinary : needsEvidence source target = false) :
    Ready target run s := by
  simp only [needsEvidence, Bool.or_eq_false_iff, beq_eq_false_iff_ne] at ordinary
  refine ⟨fun is => absurd is ordinary.1, fun is => ?_⟩
  subst is
  cases source <;> simp [FindingStatus.validTransitions] at valid ordinary

/-- A transition, whose evidence is at hand if it is claimed. -/
theorem transition_assay (id : ObjectId) (target : FindingStatus) (note : TransitionNote) (evidence : Bool) :
    assay.Safe (0 : Nat) (fun s => evidence = true → Ready target note.relatedRunId s)
      (transitionFinding 0 id target note evidence) (fun _ _ => True) (fun _ _ => True) := by
  let R (found : Option VulnerabilityFinding) (s : FindingStore) : Prop :=
    (∀ f, found = some f → s.finding = f) ∧ (evidence = true → Ready target note.relatedRunId s)
  have stable : ∀ found, assay.Stable (0 : Nat) (R found) := by
    refine fun found => stable_of_beside fun s s' beside now => ⟨fun f is => ?_, fun claimed => ?_⟩
    · exact beside.finding.trans (now.1 f is)
    · exact ready_beside beside (now.2 claimed)
  have read : assay.Safe (0 : Nat) (fun s => evidence = true → Ready target note.relatedRunId s)
      (atomic (.find id)) R (fun _ _ => True) := by
    refine clerical_perform (o := .find id) trivial stable fun s i found s' _ ready exec => ?_
    cases exec
    refine ⟨fun f is => ?_, ready⟩
    unfold FindingStore.find? at is
    split at is
    · exact Option.some.inj is
    · cases is
  refine Contract.Safe.bind read fun found => ?_
  cases found with
  | none => exact Contract.Safe.raise fun _ _ _ _ => trivial
  | some finding =>
    refine Contract.Safe.ofExcept_bind (fun _ checked => ?_) fun _ _ _ _ _ _ => trivial
    have valid : target ∈ finding.status.validTransitions := by
      unfold validateTransition at checked
      split at checked
      · assumption
      · cases checked
    refine Contract.Safe.ite (fun _ => ?_) fun admitted => ?_
    · exact Contract.Safe.raise fun _ _ _ _ => trivial
    · have update : assay.Safe (0 : Nat) (R (some finding))
          (atomic (.setStatus id finding.status target note.relatedRunId)) (fun _ _ => True)
          (fun _ _ => True) := by
        refine (setStatus_assay id valid note.relatedRunId).pre ?_
        intro s _ _ now
        refine ⟨now.1 finding rfl, ?_⟩
        cases evidence with
        | true => exact now.2 rfl
        | false => exact ready_of_ordinary valid (by simpa using admitted)
      refine Contract.Safe.bind update fun _ => ?_
      exact clerical_perform (o := .saveEvent _) trivial (fun _ => Contract.Stable.true _) fun _ _ _ _ _ _ _ => trivial

/-- Code that is clerical leaves nothing to show. -/
theorem clerical_assay {α : Type} {p : Prog findingSignature α} (uses : p.Uses FindingOp.Clerical) :
    assay.Safe (0 : Nat) (fun _ => True) p (fun _ _ => True) (fun _ _ => True) :=
  clerical_safe uses (Contract.Stable.true _) fun _ _ _ _ => trivial

theorem clerical_atomic {o : FindingOp} (clerical : o.Clerical) :
    assay.Safe (0 : Nat) (fun _ => True) (atomic o) (fun _ _ => True) (fun _ _ => True) :=
  clerical_assay (Prog.Uses.perform clerical)

/-- The submission of a retest that was just scheduled. -/
theorem link_assay (id : ObjectId) (actor : String) (run : ObjectId) (results : List ObjectId) :
    assay.Safe (0 : Nat) (fun s => Fresh run s.history) (linkFixVerification 0 id actor run results)
      (fun _ _ => True) (fun _ _ => True) := by
  have stable : assay.Stable (0 : Nat) fun s => Fresh run s.history :=
    stable_of_beside fun s s' beside fresh => beside.history ▸ fresh
  have read := clerical_safe (p := atomic (.find id)) (Prog.Uses.perform trivial) stable
    fun s s' apart fresh => by
      obtain ⟨_, _, rfl, _⟩ := apart
      exact fresh
  refine Contract.Safe.bind read fun found => ?_
  cases found with
  | none => exact Contract.Safe.raise fun _ _ _ _ => trivial
  | some finding =>
    refine Contract.Safe.bind (C := assay) (Q := fun _ _ => True) ?_ fun _ => ?_
    · refine Contract.Safe.ite (fun _ => ?_) fun _ => ?_
      · refine (transition_assay id .fixedPendingVerify _ true).pre fun s _ _ fresh _ => ?_
        exact ⟨fun _ => ⟨run, fresh⟩, fun is => by cases is⟩
      · exact (clerical_atomic (o := .saveEvent _) trivial).pre fun _ _ _ _ => trivial
    · refine Contract.Safe.bind (clerical_assay (Prog.Uses.when (Prog.Uses.perform trivial))) fun _ => ?_
      refine Contract.Safe.bind (clerical_atomic (o := .find id) trivial) fun _ => ?_
      exact Contract.Safe.ret fun _ _ _ _ => trivial

/-! ## Scheduling a retest -/

theorem Kept.scheduled (kept : Kept s) {identity : RetestIdentity} {project : String}
    {snapshots : List ObjectId}
    (final : ∀ r ∈ s.runs, r.isRetestOf s.finding.id = true → r.status.isFinal = true)
    (listed : ∀ x ∈ s.listedSnapshots, x ∈ snapshots) :
    Kept { s with
      runs := s.runs ++ [s.queuedRun identity project snapshots]
      nextId := s.nextId + 1
      history := s.history ++ [.scheduled s.nextId s.listedSnapshots] } := by
  have none_ : s.resultsOf s.nextId = [] := by
    refine List.filter_eq_nil_iff.mpr fun x mem => ?_
    have below := kept.resultsBelow x mem
    simpa using below.ne
  have split {P : RetestRun → Prop} (old : ∀ r ∈ s.runs, P r) (new : P (s.queuedRun identity project snapshots)) :
      ∀ r ∈ s.runs ++ [s.queuedRun identity project snapshots], P r := by
    intro r mem
    rcases List.mem_append.mp mem with here | here
    · exact old r here
    · obtain rfl := List.mem_singleton.mp here
      exact new
  refine ⟨?_, split ?_ ?_, ?_, split ?_ ?_, split ?_ ?_, split ?_ ?_, ?_, ?_⟩
  · rw [List.map_append, List.nodup_append]
    refine ⟨kept.ids, by simp, fun id mem id' mem' => ?_⟩
    obtain ⟨r, here, rfl⟩ := List.mem_map.mp mem
    obtain rfl : id' = s.nextId := by simpa [FindingStore.queuedRun] using mem'
    exact (kept.below r here).ne
  · intro r mem
    exact (kept.below r mem).trans (Nat.lt_succ_self _)
  · exact Nat.lt_succ_self _
  · intro x mem
    exact (kept.resultsBelow x mem).trans (Nat.lt_succ_self _)
  · exact kept.past
  · intro _ done
    cases done
  · intro r mem retest
    obtain ⟨cases_, once, ours, late⟩ := kept.fits r mem retest
    exact ⟨cases_, once, ours, late⟩
  · intro _
    refine ⟨rfl, ?_, fun x mem => ?_, fun _ => none_⟩
    · show ((s.resultsOf s.nextId).map (·.snapshotId)).Nodup
      rw [none_]
      exact List.nodup_nil
    · have mem : x ∈ s.resultsOf s.nextId := mem
      rw [none_] at mem
      cases mem
  · intro r mem retest
    refine .inr ⟨final r mem retest, split (fun l lmem isLast => ?_) fun _ done => by cases done⟩
    have same : s.nextId = l.id := Option.some.inj (lastScheduled_scheduled.symm.trans isLast)
    exact absurd (kept.below l lmem) (same ▸ lt_irrefl _)
  · intro _
    exact .inl lastScheduled_scheduled
  · intro run snapshots' mem
    rcases List.mem_append.mp mem with old | new
    · obtain ⟨r, here, is, covers⟩ := kept.covers run snapshots' old
      exact ⟨r, List.mem_append_left _ here, is, covers⟩
    · obtain ⟨rfl, rfl⟩ := Happening.scheduled.inj (List.mem_singleton.mp new)
      exact ⟨_, List.mem_append_right _ (List.mem_singleton_self _), rfl, listed⟩
  · intro _
    exact ⟨s.nextId, fresh_scheduled⟩

/-- A retest that is created is of the current round. -/
theorem enqueue_assay {identity : RetestIdentity} {project : String} {snapshots : List ObjectId} :
    assay.Safe (0 : Nat) (fun s => s.finding.id = identity.finding)
      (atomic (.enqueueSnapshotBatch identity project snapshots))
      (fun answer s => answer.2 = true → Fresh answer.1 s.history) (fun _ _ => True) := by
  refine Contract.Safe.perform (fun answer => ?_) (fun _ => Contract.Stable.true _) ?_
  · exact stable_of_beside fun s s' beside fresh created => beside.history ▸ fresh created
  intro s i r s' _ kept own admitted exec _
  have exec : execFinding 0 (.enqueueSnapshotBatch identity project snapshots) i s = some (r, s') := exec
  simp only [execFinding] at exec
  split at exec
  · cases exec
    exact ⟨kept, guar_of_status rfl, trivial⟩
  · next admits =>
    cases exec
    simp only [FindingStore.enqueue]
    split
    · exact ⟨kept, guar_of_status rfl, fun created => by cases created⟩
    · next unknown =>
      have unknown : s.runs.any (·.identity == some identity) = false := by
        refine List.any_eq_false.mpr fun r mem => ?_
        exact List.find?_eq_none.mp unknown r mem
      have allowed : (∀ r ∈ s.runs, r.isRetestOf identity.finding = false ∨ r.status.isFinal = true) ∧
          ∀ x ∈ s.listedSnapshots, x ∈ snapshots := by
        simpa [assay, Guard.both, sequential, careful, admits, unknown] using admitted
      refine ⟨kept.scheduled (fun r mem retest => ?_) allowed.2, guar_of_status rfl,
        fun _ => fresh_scheduled⟩
      refine (allowed.1 r mem).resolve_left ?_
      rw [← own, retest]
      exact Bool.noConfusion

theorem schedule_assay (id : ObjectId) (actor : String) :
    assay.Safe (0 : Nat) (fun _ => True) (scheduleFindingRetest 0 id actor) (fun _ _ => True)
      (fun _ _ => True) := by
  have constant : ∀ {x : ObjectId}, assay.Stable (0 : Nat) fun s => s.finding.id = x := by
    intro x
    exact stable_of_beside fun s s' beside is => (congrArg _ beside.finding).trans is
  have keeps : ∀ {x : ObjectId} (s s' : FindingStore), Apart s s' → s.finding.id = x → s'.finding.id = x := by
    intro x s s' apart is
    obtain ⟨_, _, rfl, same, _⟩ := apart
    exact same.trans is
  have reads {x : ObjectId} {o : FindingOp} (clerical : o.Clerical) :
      assay.Safe (0 : Nat) (fun s => s.finding.id = x) (atomic o) (fun _ s => s.finding.id = x) (fun _ _ => True) :=
    clerical_safe (Prog.Uses.perform clerical) constant keeps
  have read : assay.Safe (0 : Nat) (fun _ => True) (atomic (.find id))
      (fun found s => ∀ f, found = some f → s.finding.id = f.id) (fun _ _ => True) := by
    refine clerical_perform (o := .find id) trivial (fun found => ?_) fun s i found s' _ _ exec f is => ?_
    · exact Contract.Stable.all fun f => Contract.Stable.imp constant
    · cases exec
      unfold FindingStore.find? at is
      split at is
      · exact congrArg _ (Option.some.inj is)
      · cases is
  refine Contract.Safe.bind read fun found => ?_
  cases found with
  | none => exact Contract.Safe.raise fun _ _ _ _ => trivial
  | some finding =>
    dsimp only
    split
    · exact Contract.Safe.raise fun _ _ _ _ => trivial
    refine Contract.Safe.bind ((reads (x := finding.id) (o := .activeRetest _ _) trivial).pre
      fun _ _ _ now => now finding rfl) fun active => ?_
    cases active with
    | some run => exact Contract.Safe.ret fun _ _ _ _ => trivial
    | none =>
      refine Contract.Safe.bind (reads (o := .baselineResults _) trivial) fun baseline => ?_
      split
      · exact Contract.Safe.raise fun _ _ _ _ => trivial
      refine Contract.Safe.bind (reads (o := .sourceRuns _) trivial) fun sources => ?_
      cases sources with
      | nil => exact Contract.Safe.raise fun _ _ _ _ => trivial
      | cons source rest =>
        dsimp only
        split
        · exact Contract.Safe.raise fun _ _ _ _ => trivial
        refine Contract.Safe.bind (reads (o := .latestTerminal _ _) trivial) fun latest => ?_
        refine Contract.Safe.bind enqueue_assay fun answer => ?_
        obtain ⟨run, created⟩ := answer
        refine Contract.Safe.ite (fun new => ?_) fun _ => Contract.Safe.ret fun _ _ _ _ => trivial
        exact (link_assay _ _ _ _).pre fun _ _ _ fresh => fresh new

/-! ## Evaluating a retest -/

/-- Results that verify the fix are all there and all pass. -/
theorem classify_verified {checkpoints : List CheckpointStatus} {results : List RetestResult} {totalCases : Nat}
    (verified : (classifyFindingRetest checkpoints results totalCases).decision = .verifiedFixed) :
    results.length = totalCases ∧ ∀ x ∈ results, x.isPass = true := by
  simp only [classifyFindingRetest] at verified
  split at verified
  · cases verified
  · split at verified
    · next passing =>
      simp only [Bool.and_eq_true, List.all_eq_true] at passing
      obtain ⟨complete, pass⟩ := passing
      simp only [retestComplete, Bool.and_eq_true, beq_iff_eq] at complete
      exact ⟨complete.1.2, pass⟩
    · cases verified

def Finished (r : RetestRun) (results : List RetestResult) (s : FindingStore) : Prop :=
  r ∈ s.runs ∧ r.isRetestOf s.finding.id = true ∧ r.status = .done ∧ s.resultsOf r.id = results

theorem Finished.beside {r : RetestRun} {results : List RetestResult} {s s' : FindingStore} (beside : Beside s s')
    (finished : Finished r results s) : Finished r results s' := by
  obtain ⟨mem, own, done, are⟩ := finished
  obtain ⟨mem', same⟩ := beside.final r mem (by rw [done]; rfl)
  exact ⟨mem', by rw [beside.finding]; exact own, done, same.trans are⟩

theorem Finished.apart {r : RetestRun} {results : List RetestResult} {s s' : FindingStore} (apart : Apart s s')
    (finished : Finished r results s) : Finished r results s' := by
  obtain ⟨finding, events, rfl, sameId, _⟩ := apart
  obtain ⟨mem, own, rest⟩ := finished
  refine ⟨mem, ?_, rest⟩
  rw [← own, ← sameId]

theorem evaluate_assay (id run : ObjectId) (actor : String) :
    assay.Safe (0 : Nat) (fun _ => True) (evaluateFindingRetest 0 id run actor) (fun _ _ => True)
      (fun _ _ => True) := by
  have read : assay.Safe (0 : Nat) (fun _ => True) (atomic (.find id))
      (fun found s => ∀ f, found = some f → s.finding.id = f.id) (fun _ _ => True) := by
    refine clerical_perform (o := .find id) trivial (fun found => ?_) fun s i found s' _ _ exec f is => ?_
    · refine stable_of_beside fun s s' beside now f is => ?_
      exact (congrArg _ beside.finding).trans (now f is)
    · cases exec
      unfold FindingStore.find? at is
      split at is
      · exact congrArg _ (Option.some.inj is)
      · cases is
  refine Contract.Safe.bind read fun found => ?_
  cases found with
  | none => exact Contract.Safe.raise fun _ _ _ _ => trivial
  | some finding =>
    have lookup : assay.Safe (0 : Nat) (fun s => s.finding.id = finding.id)
        (atomic (.retestRun run finding.projectId finding.id))
        (fun found s => ∀ r, found = some r → r.status = .done → ∃ results, Finished r results s)
        (fun _ _ => True) := by
      refine clerical_perform (o := .retestRun _ _ _) trivial (fun found => ?_) fun s i found s' _ own exec r is done => ?_
      · refine stable_of_beside fun s s' beside now r is done => ?_
        obtain ⟨results, finished⟩ := now r is done
        exact ⟨results, finished.beside beside⟩
      · cases exec
        have kept_ := List.mem_filter.mp (List.mem_of_find?_eq_some is)
        simp only [Bool.and_eq_true] at kept_
        exact ⟨_, kept_.1, own ▸ kept_.2.2, done, rfl⟩
    refine Contract.Safe.bind (lookup.pre fun _ _ _ now => now finding rfl) fun retest => ?_
    cases retest with
    | none => exact Contract.Safe.raise fun _ _ _ _ => trivial
    | some retest =>
      refine Contract.Safe.ite (fun _ => Contract.Safe.raise fun _ _ _ _ => trivial) fun isDone => ?_
      have done : retest.status = .done := not_not.mp isDone
      have results : assay.Safe (0 : Nat) (fun s => ∃ results, Finished retest results s)
          (atomic (.runResults retest.id)) (fun results s => Finished retest results s) (fun _ _ => True) := by
        refine clerical_perform (o := .runResults _) trivial (fun results => ?_) fun s i results s' _ now exec => ?_
        · exact stable_of_beside fun s s' => Finished.beside
        · cases exec
          obtain ⟨_, mem, own, done, rfl⟩ := now
          exact ⟨mem, own, done, rfl⟩
      refine Contract.Safe.bind (results.pre fun _ _ _ now => now retest rfl done) fun results => ?_
      have links : (linkResults finding.id retest.id results).Uses FindingOp.Clerical :=
        Prog.Uses.forEach fun _ => Prog.Uses.perform trivial
      have linked := clerical_safe links (φ := Finished retest results)
        (stable_of_beside fun s s' => Finished.beside) fun s s' => Finished.apart
      refine Contract.Safe.bind linked fun _ => ?_
      refine Contract.Safe.ite (fun _ => ?_) fun _ => Contract.Safe.ret fun _ _ _ _ => trivial
      split
      · next verified =>
        refine (transition_assay _ .verifiedFixed _ true).pre fun s _ _ finished _ => ?_
        obtain ⟨length, pass⟩ := classify_verified verified
        obtain ⟨mem, own, done, are⟩ := finished
        refine ⟨fun is => (by cases is), fun _ => ⟨retest, mem, rfl, own, by rw [done]; rfl, ?_, ?_⟩⟩
        · rw [are]
          exact length
        · rw [are]
          exact pass
      · refine (transition_assay _ .reopened _ true).pre fun s _ _ _ _ => ?_
        exact ⟨fun is => (by cases is), fun is => by cases is⟩
      · refine Contract.Safe.pre (φ := fun _ => True) ?_ fun _ _ _ _ => trivial
        refine Contract.Safe.bind (clerical_atomic (o := .verifyEvent _ _ _) trivial) fun existing => ?_
        exact clerical_assay (Prog.Uses.when (Prog.Uses.perform trivial))

theorem evaluateCompleted_assay (actor : String) (run : RetestRun) :
    assay.Safe (0 : Nat) (fun _ => True) (evaluateCompleted 0 actor run) (fun _ _ => True) (fun _ _ => True) := by
  unfold evaluateCompleted
  split
  · exact Contract.Safe.ret fun _ _ _ _ => trivial
  · refine Contract.Safe.bind (clerical_atomic (o := .pendingFinding _) trivial) fun finding => ?_
    cases finding with
    | none => exact Contract.Safe.ret fun _ _ _ _ => trivial
    | some finding =>
      refine Contract.Safe.bind (clerical_atomic (o := .evaluationMarker _ _) trivial) fun marker => ?_
      cases marker with
      | true => exact Contract.Safe.ret fun _ _ _ _ => trivial
      | false => exact evaluate_assay _ _ _

theorem call_assay {call : FindingCall} (ordinary : call.isOrdinary = true) :
    assay.Safe (0 : Nat) (fun _ => True) (call.code 0) (fun _ _ => True) (fun _ _ => True) := by
  cases call with
  | transition id target note evidence =>
    refine (transition_assay id target note evidence).pre fun s _ _ _ claimed => ?_
    rw [claimed] at ordinary
    cases ordinary
  | link => cases ordinary
  | schedule id actor => exact schedule_assay id actor
  | evaluate id run actor => exact evaluate_assay id run actor
  | evaluateCompleted limit actor =>
    refine Contract.Safe.bind (clerical_atomic (o := .completedRetests _) trivial) fun runs => ?_
    exact Contract.Safe.forEach (C := assay) (φ := fun _ _ => True) (fun run _ => evaluateCompleted_assay actor run) runs

theorem caller_assay {calls : List FindingCall} (ordinary : calls.all (·.isOrdinary) = true) :
    assay.Safe (0 : Nat) (fun _ => True) (callerCode 0 calls) (fun _ _ => True) (fun _ _ => True) := by
  induction calls with
  | nil => exact Contract.Safe.ret fun _ _ _ _ => trivial
  | cons call calls ih =>
    obtain ⟨first, rest⟩ := Bool.and_eq_true_iff.mp ordinary
    refine Contract.Safe.bind (C := assay) (Q := fun _ _ => True) ?_ fun _ => ih rest
    exact Contract.Safe.handle (call_assay first) fun _ => Contract.Safe.ret fun _ _ _ _ => trivial

theorem Progressed.beside {f : RetestRun → RetestRun} (p : Progressed s s' f) : Beside s s' := by
  refine ⟨p.finding, p.history, fun r mem final => ?_⟩
  obtain ⟨still, results⟩ := p.final r mem final
  refine ⟨?_, results⟩
  rw [p.runs]
  exact List.mem_map.mpr ⟨r, mem, still⟩

/-- **The contract holds** of the one caller, beside the scheduler. -/
theorem assay_holds : assay.Holds where
  waits _ := fun _ _ _ _ _ _ _ _ _ _ => trivial
  start t i s p s' _ kept _ admitted code _ := by
    simp only [assay, Guard.both, sequential, careful, Bool.and_true, Bool.and_eq_true] at admitted
    obtain ⟨zero, ordinary⟩ := admitted
    obtain rfl : t = (0 : Nat) := beq_iff_eq.mp zero
    cases code
    exact ⟨kept, guar_of_status rfl, fun _ => True, Contract.Stable.true _, trivial, caller_assay ordinary⟩
  environment i s s' _ kept change _ := by
    obtain ⟨f, progressed⟩ := scheduleStep_progressed kept.ids change
    refine ⟨progressed.kept kept, fun _ => progressed.beside, fun w is => (by cases is), fun other moved => ?_⟩
    rw [progressed.finding] at moved
    exact absurd moved other

/-! ## Every history -/

/-- A store in which the finding has no retest yet. -/
structure Unretested (s : FindingStore) : Prop where
  ids : (s.runs.map (·.id)).Nodup
  below : ∀ r ∈ s.runs, r.id < s.nextId
  resultsBelow : ∀ x ∈ s.results, x.runId < s.nextId
  noRetest : ∀ r ∈ s.runs, r.isRetestOf s.finding.id = false
  unscheduled : ∀ run snapshots, Happening.scheduled run snapshots ∉ s.history
  notPending : s.finding.status ≠ .fixedPendingVerify

theorem Unretested.kept (fresh : Unretested s) : Kept s := by
  have none_ : ∀ {P : Prop} {r : RetestRun}, r ∈ s.runs → r.isRetestOf s.finding.id = true → P := by
    intro P r mem own
    rw [fresh.noRetest r mem] at own
    cases own
  exact ⟨fresh.ids, fresh.below, fresh.resultsBelow, fun r mem own => none_ mem own, fun r mem own => none_ mem own,
    fun r mem own => none_ mem own, fun run snapshots listed => absurd listed (fresh.unscheduled run snapshots),
    fun pending => absurd pending fresh.notPending⟩

/-- **Verified fixes.** In every sequential history in which only the newest retest verifies the
finding and a retest is created once those before it are final, of all the snapshots listed, a move
to `verified_fixed` rests on a retest that justifies it. -/
theorem verified_on_evidence (s : FindingStore) (unretested : Unretested s) (c d : Config findingDesk)
    (l : Label findingDesk) (reached : Run (sequential.both careful) (openDesk s) c)
    (admitted : (sequential.both careful).admits c l = true) (taken : c.next l = some d) :
    VerifiedOnEvidence c.state d.state := by
  have sound : assay.Sound c := by
    refine Contract.sound assay_holds (fun _ _ => trivial) ?_ reached
    exact Contract.Sound.initial unretested.kept fun _ => trivial
  obtain ⟨_, _, _, justified⟩ := sound.guarantee assay_holds trivial trivial admitted (Config.next_cases taken)
  exact justified

/-! ## A retest of an earlier round -/

/-- A finding with results of two runs. -/
def confirmedFinding : FindingStore where
  finding := { id := 1, resultIds := [50, 51], runIds := [2, 3] }
  events := [{ caller := none, eventType := .created, toStatus := some .opened }]
  runs := [{ id := 2, status := .done, startedAt := 2 }, { id := 3, status := .done, startedAt := 1 }]
  results := [{ id := 50, runId := 2, snapshotId := some 100, verdict := "potential_vuln" },
    { id := 51, runId := 3, snapshotId := some 200, verdict := "potential_vuln" }]
  nextId := 10
  history := [.moved none none .opened none]

theorem confirmedFinding_unretested : Unretested confirmedFinding := by
  constructor <;> simp [confirmedFinding, RetestRun.isRetestOf]

def calls (list : List FindingCall) : Label findingDesk := .start (0 : Nat) { calls := list }

def steps (n : Nat) : List (Label findingDesk) := List.replicate n (.step (0 : Nat) {})

/-- The scheduler finishes a retest of snapshot 100 with one result. -/
def finish (run result : ObjectId) (verdict : String) : Label findingDesk :=
  let replayed : RetestResult := { id := result, runId := run, snapshotId := some 100, verdict := verdict }
  .environment { elapsed := 1, progress := .finish run .done [.done] [replayed] }

/-- The first retest passes and is not evaluated; the second reproduces the finding, which is fixed
again and submitted; then the first one is evaluated. -/
def staleEvaluation : List (Label findingDesk) :=
  [calls [.transition 1 .fixing {} false, .schedule 1 "op", .schedule 1 "op", .evaluate 1 11 "op",
    .transition 1 .fixing {} false, .schedule 1 "op", .evaluate 1 10 "op"]] ++
  steps 15 ++ [finish 10 60 "no_vuln"] ++ steps 10 ++ [finish 11 61 "potential_vuln"] ++ steps 27

/-- A later retest than run 10 reproduced the finding. -/
def opposed (s : FindingStore) : Bool :=
  s.runs.all fun r => r.id != 10 || s.runs.any fun r' =>
    r'.isRetestOf s.finding.id && r'.status.isFinal && decide (r.finishedAt < r'.finishedAt) &&
      (s.resultsOf r'.id).any (·.isCandidate)

def verifiedBy10 (s : FindingStore) : Bool :=
  s.finding.status == .verifiedFixed &&
    s.history.getLast? == some (.moved (some 0) (some .fixedPendingVerify) .verifiedFixed (some 10))

theorem sequential_step (c : Config findingDesk) (t : Nat) (i : FindingInput) :
    sequential.admits c (.step t i) = true := by
  simp only [Guard.admits]
  split <;> rfl

theorem verified_on_stale_evidence : ¬ ∀ s, Unretested s → ∀ (c d : Config findingDesk) (l : Label findingDesk),
    Run sequential (openDesk s) c → sequential.admits c l = true → c.next l = some d →
      VerifiedOnEvidence c.state d.state := by
  intro evidence
  let last : Label findingDesk := .step (0 : Nat) {}
  let P (c : Config findingDesk) : Bool := c.state.finding.status != .verifiedFixed && opposed c.state &&
    (c.next last).any fun d => verifiedBy10 d.state
  obtain ⟨c, run, shown⟩ := Run.exists_of_follow (P := P)
    (show ((openDesk confirmedFinding).follow sequential staleEvaluation).any P = true by decide +kernel)
  simp only [P, Bool.and_eq_true, bne_iff_ne, ne_eq] at shown
  obtain ⟨⟨notYet, opposed_⟩, next⟩ := shown
  obtain ⟨d, taken, verified⟩ := Option.any_eq_true _ _ |>.mp next
  simp only [verifiedBy10, Bool.and_eq_true, beq_iff_eq] at verified
  obtain ⟨r, mem, _, justified, caller, source, history⟩ :=
    evidence confirmedFinding confirmedFinding_unretested c d last run (sequential_step c 0 {}) taken notYet verified.1
  have ten : r.id = 10 := by
    have newest := verified.2
    simp only [history, List.getLast?_append, List.getLast?_singleton, Option.some_or, Option.some.injEq,
      Happening.moved.injEq] at newest
    exact newest.2.2.2
  have later := List.all_eq_true.mp opposed_ r mem
  simp only [ten, bne_self_eq_false, Bool.false_or, List.any_eq_true, Bool.and_eq_true, decide_eq_true_eq] at later
  obtain ⟨r', mem', ⟨⟨own, final⟩, finished⟩, result, here, candidate⟩ := later
  have refuted := justified.unopposed r' mem' own final finished result here
  rw [candidate] at refuted
  cases refuted

/-- A finding whose fix is submitted, retested and verified. -/
theorem verified_on_evidence_once : ∃ c d : Config findingDesk, c.state.finding.status = .fixedPendingVerify ∧
    d.state.finding.status = .verifiedFixed ∧ VerifiedOnEvidence c.state d.state := by
  let single : FindingStore := { confirmedFinding with
    finding := { confirmedFinding.finding with resultIds := [50] } }
  let last : Label findingDesk := .step (0 : Nat) {}
  let P (c : Config findingDesk) : Bool := c.state.finding.status == .fixedPendingVerify &&
    (sequential.both careful).admits c last && (c.next last).any fun d => d.state.finding.status == .verifiedFixed
  obtain ⟨c, run, shown⟩ := Run.exists_of_follow (P := P)
    (show ((openDesk single).follow (sequential.both careful) ([calls [.transition 1 .fixing {} false,
      .schedule 1 "op", .evaluate 1 10 "op"]] ++ steps 15 ++ [finish 10 60 "no_vuln"] ++ steps 5)).any P = true by
        decide +kernel)
  simp only [P, Bool.and_eq_true, beq_iff_eq] at shown
  obtain ⟨⟨pending, admitted⟩, next⟩ := shown
  obtain ⟨d, taken, verified⟩ := Option.any_eq_true _ _ |>.mp next
  have unretested : Unretested single := by
    constructor <;> simp [single, confirmedFinding, RetestRun.isRetestOf]
  exact ⟨c, d, pending, by simpa using verified,
    verified_on_evidence single unretested c d last run admitted taken⟩

end ApiManger.Findings
