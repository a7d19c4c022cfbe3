import ApiManger.Findings.Desk

/-!
# What a verified fix rests on

Calls come one after the other, beside the scheduler. A finding that moves to
`verified_fixed` was verified by a retest of the current round of fixing, nothing that
finished later contradicts it, and it replayed every snapshot the finding listed. It
takes three things of a history: only the newest retest verifies the finding, a new
retest waits for the ones before it, and it replays all the snapshots that are listed.
The invariant of such a history is here, with the scheduler's part in it.
-/

namespace ApiManger.Findings
open Python Store Interleaving

def lastScheduled (l : List Happening) : Option ObjectId :=
  (l.filterMap fun
    | .scheduled run _ => some run
    | .moved .. => none).getLast?

def Happening.intoFixing : Happening → Bool
  | .moved _ _ target _ => target == .fixing
  | .scheduled _ _ => false

/-- The evidence of a retest for a verified fix. -/
structure Justified (s : FindingStore) (r : RetestRun) : Prop where
  /-- It is of the current round of fixing, and has a passing result of each snapshot listed then. -/
  current : ∃ before snapshots after, s.history = before ++ .scheduled r.id snapshots :: after ∧
    (∀ h ∈ after, h.intoFixing = false) ∧
    ∀ x ∈ snapshots, ∃ result ∈ s.resultsOf r.id, result.snapshotId = some x ∧ result.isPass = true
  /-- No retest that finished later reproduced the finding. -/
  unopposed : ∀ r' ∈ s.runs, r'.isRetestOf s.finding.id = true → r'.status.isFinal = true →
    r.finishedAt < r'.finishedAt → ∀ result ∈ s.resultsOf r'.id, result.isCandidate = false

/-- A step that moves the finding to `verified_fixed` names a retest that justifies it. -/
def VerifiedOnEvidence (s s' : FindingStore) : Prop :=
  s.finding.status ≠ .verifiedFixed → s'.finding.status = .verifiedFixed →
    ∃ r ∈ s.runs, r.isRetestOf s.finding.id = true ∧ Justified s r ∧ ∃ caller source,
      s'.history = s.history ++ [.moved caller source .verifiedFixed (some r.id)]

/-- What one caller may ask for when nobody claims evidence by hand. -/
def FindingCall.isOrdinary : FindingCall → Bool
  | .transition _ _ _ evidence => !evidence
  | .link .. => false
  | .schedule .. | .evaluate .. | .evaluateCompleted .. => true

/-- One caller makes its calls, one after the other. -/
def sequential : Guard findingDesk where
  start t i _ := t == (0 : Nat) && (FindingInput.calls i).all (·.isOrdinary)
  op _ _ _ _ := true

/-- The newest retest verifies the finding; a retest is created once all before it are final, and of
all the snapshots that are listed. -/
def careful : Guard findingDesk where
  start _ _ _ := true
  op _ o i s := match o with
    | FindingOp.setStatus _ _ .verifiedFixed run => lastScheduled (FindingStore.history s) == run
    | FindingOp.enqueueSnapshotBatch identity _ snapshots =>
      (FindingInput.refusal i).isSome || (FindingStore.runs s).any (·.identity == some identity) ||
        ((FindingStore.runs s).all (fun r => !r.isRetestOf identity.finding || r.status.isFinal) &&
          (FindingStore.listedSnapshots s).all snapshots.contains)
    | _ => true

/-! ## The invariant -/

/-- A move that does not start a round of fixing. -/
def Happening.stays : Happening → Bool
  | .moved _ _ target _ => target != .fixing
  | .scheduled _ _ => false

/-- A retest was scheduled in the current round of fixing; nothing but moves came after it. -/
def Fresh (run : ObjectId) (l : List Happening) : Prop :=
  ∃ before snapshots after, l = before ++ .scheduled run snapshots :: after ∧ ∀ h ∈ after, h.stays = true

variable {run : ObjectId} {l : List Happening}

theorem fresh_scheduled {snapshots : List ObjectId} :
    Fresh run (l ++ [.scheduled run snapshots]) :=
  ⟨l, snapshots, [], rfl, by simp⟩

theorem Fresh.moved {h : Happening} (fresh : Fresh run l)
    (stays : h.stays = true) : Fresh run (l ++ [h]) := by
  obtain ⟨before, snapshots, after, rfl, quiet⟩ := fresh
  refine ⟨before, snapshots, after ++ [h], by simp, ?_⟩
  intro x mem
  rcases List.mem_append.mp mem with old | new
  · exact quiet x old
  · obtain rfl := List.mem_singleton.mp new
    exact stays

theorem lastScheduled_moved {caller : Option Nat} {source : Option FindingStatus}
    {target : FindingStatus} {run : Option ObjectId} :
    lastScheduled (l ++ [.moved caller source target run]) = lastScheduled l := by
  simp [lastScheduled, List.filterMap_append]

theorem lastScheduled_scheduled {snapshots : List ObjectId} :
    lastScheduled (l ++ [.scheduled run snapshots]) = some run := by
  simp [lastScheduled, List.filterMap_append]

/-- The retest of the current round is the one scheduled last. -/
theorem Fresh.last (fresh : Fresh run l) : lastScheduled l = some run := by
  obtain ⟨before, snapshots, after, rfl, quiet⟩ := fresh
  have none_ : after.filterMap (fun
      | .scheduled run _ => some run
      | .moved .. => none : Happening → Option ObjectId) = [] := by
    refine List.filterMap_eq_nil_iff.mpr fun h mem => ?_
    have stays := quiet h mem
    cases h with
    | moved => rfl
    | scheduled => cases stays
  simp [lastScheduled, List.filterMap_append, none_]

/-- The results of a retest are of its cases, each case at most once. -/
structure Fits (s : FindingStore) (r : RetestRun) : Prop where
  cases_ : r.totalCases = r.snapshotIds.length
  once : ((s.resultsOf r.id).map (·.snapshotId)).Nodup
  own : ∀ x ∈ s.resultsOf r.id, x.snapshotId ∈ r.snapshotIds.map some
  late : r.status.isFinal = false → s.resultsOf r.id = []

/-- What holds between the steps of a history. -/
structure Kept (s : FindingStore) : Prop where
  ids : (s.runs.map (·.id)).Nodup
  below : ∀ r ∈ s.runs, r.id < s.nextId
  resultsBelow : ∀ x ∈ s.results, x.runId < s.nextId
  past : ∀ r ∈ s.runs, r.isRetestOf s.finding.id = true → r.status.isFinal = true → r.finishedAt ≤ s.clock
  fits : ∀ r ∈ s.runs, r.isRetestOf s.finding.id = true → Fits s r
  /-- All retests but the last are final, and none finished after it. -/
  order : ∀ r ∈ s.runs, r.isRetestOf s.finding.id = true → lastScheduled s.history = some r.id ∨
    r.status.isFinal = true ∧ ∀ l ∈ s.runs, lastScheduled s.history = some l.id → l.status.isFinal = true →
      r.finishedAt ≤ l.finishedAt
  covers : ∀ run snapshots, .scheduled run snapshots ∈ s.history →
    ∃ r ∈ s.runs, r.id = run ∧ ∀ x ∈ snapshots, x ∈ r.snapshotIds
  pending : s.finding.status = .fixedPendingVerify → ∃ run, Fresh run s.history

/-- Two runs of one id are one. -/
theorem Kept.unique {s : FindingStore} (kept : Kept s) {r r' : RetestRun} (mem : r ∈ s.runs) (mem' : r' ∈ s.runs)
    (same : r.id = r'.id) : r = r' :=
  List.inj_on_of_nodup_map kept.ids mem mem' same

/-! ## The scheduler -/

/-- What the scheduler does to the retests: `f` moves or finishes one that is not final. -/
structure Progressed (s s' : FindingStore) (f : RetestRun → RetestRun) : Prop where
  runs : s'.runs = s.runs.map f
  finding : s'.finding = s.finding
  history : s'.history = s.history
  nextId : s'.nextId = s.nextId
  clock : s.clock ≤ s'.clock
  same : ∀ r, (f r).id = r.id ∧ (f r).retestOf = r.retestOf ∧ (f r).totalCases = r.totalCases ∧
    (f r).snapshotIds = r.snapshotIds
  final : ∀ r ∈ s.runs, r.status.isFinal = true → f r = r ∧ s'.resultsOf r.id = s.resultsOf r.id
  active : ∀ r ∈ s.runs, (f r).status.isFinal = false → s'.resultsOf r.id = s.resultsOf r.id
  finished : ∀ r ∈ s.runs, r.status.isFinal = false → (f r).status.isFinal = true →
    (f r).finishedAt = s'.clock ∧ ∃ new, s'.resultsOf r.id = s.resultsOf r.id ++ new ∧
      (new.map (·.snapshotId)).Nodup ∧ ∀ x ∈ new, x.snapshotId ∈ r.snapshotIds.map some
  results : ∀ x ∈ s'.results, x ∈ s.results ∨ ∃ r ∈ s.runs, x.runId = r.id

theorem resultsOf_append (s : FindingStore) (results : List RetestResult) (clock : Timestamp)
    (runs : List RetestRun) (run : ObjectId) :
    { s with clock := clock, results := s.results ++ results, runs := runs }.resultsOf run =
      s.resultsOf run ++ results.filter (·.runId == run) := by
  simp [FindingStore.resultsOf, List.filter_append]

theorem scheduleStep_progressed {i : FindingInput} {s s' : FindingStore} (ids : (s.runs.map (·.id)).Nodup)
    (change : scheduleStep i s = some s') : ∃ f, Progressed s s' f := by
  have later : s.clock ≤ s.clock + (i.elapsed : Timestamp) := Int.le_add_of_nonneg_right (Int.natCast_nonneg _)
  simp only [scheduleStep] at change
  split at change
  · next id status _ =>
    split at change
    · cases change
    · next active =>
      cases change
      refine ⟨_, rfl, rfl, rfl, rfl, later, fun r => ?_, fun r _ final => ⟨?_, rfl⟩, fun _ _ _ => rfl,
        fun r _ old new => ?_, fun x mem => .inl mem⟩
      · split <;> exact ⟨rfl, rfl, rfl, rfl⟩
      · simp [final]
      · split at new
        · exact absurd new active
        · rw [old] at new
          cases new
  · next id status checkpoints results _ =>
    split at change
    · cases change
    · next run found =>
      split at change
      · next allowed =>
        cases change
        simp only [Bool.and_eq_true, Bool.not_eq_true'] at allowed
        obtain ⟨⟨final, active⟩, fit⟩ := allowed
        simp only [resultsFit, Bool.and_eq_true, List.all_eq_true, decide_eq_true_eq, beq_iff_eq] at fit
        obtain ⟨own, once⟩ := fit
        have member : run ∈ s.runs := List.mem_of_find?_eq_some found
        have named : run.id = id := by simpa using List.find?_some found
        -- the results of a run that does not finish now
        have others : ∀ r : RetestRun, r.id ≠ run.id → results.filter (·.runId == r.id) = [] := by
          intro r other
          refine List.filter_eq_nil_iff.mpr fun x mem => ?_
          have from_ := (own x mem).1.1
          rw [from_, beq_iff_eq]
          exact fun e => other e.symm
        have ours : results.filter (·.runId == run.id) = results :=
          List.filter_eq_self.mpr fun x mem => by simp [(own x mem).1.1]
        have one : ∀ r ∈ s.runs, r.id = run.id → r = run :=
          fun r mem same => List.inj_on_of_nodup_map ids mem member same
        refine ⟨_, rfl, rfl, rfl, rfl, later, fun r => ?_, fun r mem old => ⟨?_, ?_⟩, fun r mem new => ?_,
          fun r mem old new => ?_, fun x mem => ?_⟩
        · split <;> exact ⟨rfl, rfl, rfl, rfl⟩
        · have other : r.id ≠ id := by
            intro same
            rw [one r mem (same.trans named.symm), active] at old
            cases old
          simp [other]
        · have other : r.id ≠ run.id := by
            intro same
            rw [one r mem same, active] at old
            cases old
          rw [resultsOf_append, others r other, List.append_nil]
        · have other : r.id ≠ run.id := by
            intro same
            rw [if_pos (by simp [same, named])] at new
            exact absurd final (by simp [new])
          rw [resultsOf_append, others r other, List.append_nil]
        · have same : r.id = run.id := by
            by_contra other
            rw [if_neg (by simpa [← named] using other), old] at new
            cases new
          obtain rfl := one r mem same
          refine ⟨by simp [named], results, ?_, once, fun x mem => ?_⟩
          · rw [resultsOf_append, ours]
          · obtain ⟨⟨_, case_⟩, _⟩ := own x mem
            obtain ⟨y, is, listed⟩ := Option.any_eq_true _ _ |>.mp case_
            exact List.mem_map.mpr ⟨y, by simpa using listed, is.symm⟩
        · rcases List.mem_append.mp mem with old | new
          · exact .inl old
          · exact .inr ⟨run, member, (own x new).1.1⟩
      · cases change

/-- The scheduler keeps the invariant. -/
theorem Progressed.kept {s s' : FindingStore} {f : RetestRun → RetestRun} (p : Progressed s s' f) (kept : Kept s) :
    Kept s' := by
  have retest : ∀ r, (f r).isRetestOf s'.finding.id = r.isRetestOf s.finding.id := by
    intro r
    rw [RetestRun.isRetestOf, (p.same r).2.1, p.finding, RetestRun.isRetestOf]
  have member : ∀ {r'}, r' ∈ s'.runs → ∃ r ∈ s.runs, f r = r' := by
    intro r' mem
    rw [p.runs] at mem
    exact List.mem_map.mp mem
  refine ⟨?_, ?_, ?_, ?_, ?_, ?_, ?_, ?_⟩
  · have ids : s'.runs.map (·.id) = s.runs.map (·.id) := by
      rw [p.runs, List.map_map]
      exact List.map_congr_left fun r _ => (p.same r).1
    rw [ids]
    exact kept.ids
  · intro r' mem'
    obtain ⟨r, mem, rfl⟩ := member mem'
    rw [(p.same r).1, p.nextId]
    exact kept.below r mem
  · intro x mem
    rw [p.nextId]
    rcases p.results x mem with old | ⟨r, here, is⟩
    · exact kept.resultsBelow x old
    · rw [is]
      exact kept.below r here
  · intro r' mem' own final
    obtain ⟨r, mem, rfl⟩ := member mem'
    rw [retest] at own
    cases old : r.status.isFinal with
    | true =>
      rw [(p.final r mem old).1]
      exact (kept.past r mem own old).trans p.clock
    | false => exact (p.finished r mem old final).1.le
  · intro r' mem' own
    obtain ⟨r, mem, rfl⟩ := member mem'
    rw [retest] at own
    have fits := kept.fits r mem own
    obtain ⟨sameId, _, sameCases, sameSnapshots⟩ := p.same r
    cases old : r.status.isFinal with
    | true =>
      obtain ⟨still, results⟩ := p.final r mem old
      rw [still]
      exact ⟨fits.cases_, by rw [results]; exact fits.once, by rw [results]; exact fits.own,
        fun no => by rw [old] at no; cases no⟩
    | false =>
      cases new : (f r).status.isFinal with
      | false =>
        have results := p.active r mem new
        refine ⟨by rw [sameCases, sameSnapshots, fits.cases_], ?_, ?_, fun _ => ?_⟩
        · rw [sameId, results]
          exact fits.once
        · rw [sameId, results, sameSnapshots]
          exact fits.own
        · rw [sameId, results]
          exact fits.late old
      | true =>
        obtain ⟨_, fresh, results, once, ours⟩ := p.finished r mem old new
        rw [fits.late old, List.nil_append] at results
        refine ⟨by rw [sameCases, sameSnapshots, fits.cases_], ?_, ?_, fun no => by rw [new] at no; cases no⟩
        · rw [sameId, results]
          exact once
        · rw [sameId, results, sameSnapshots]
          exact ours
  · intro r' mem' own
    obtain ⟨r, mem, rfl⟩ := member mem'
    rw [retest] at own
    rw [p.history, (p.same r).1]
    rcases kept.order r mem own with last | ⟨final, newest⟩
    · exact .inl last
    · obtain ⟨still, _⟩ := p.final r mem final
      refine .inr ⟨by rw [still]; exact final, fun l' lmem' isLast done => ?_⟩
      obtain ⟨l, lmem, rfl⟩ := member lmem'
      rw [(p.same l).1] at isLast
      rw [still]
      cases old : l.status.isFinal with
      | true =>
        rw [(p.final l lmem old).1]
        exact newest l lmem isLast old
      | false =>
        rw [(p.finished l lmem old done).1]
        exact (kept.past r mem own final).trans p.clock
  · intro run snapshots listed
    rw [p.history] at listed
    obtain ⟨r, mem, is, covers⟩ := kept.covers run snapshots listed
    refine ⟨f r, p.runs ▸ List.mem_map_of_mem mem, (p.same r).1.trans is, ?_⟩
    rw [(p.same r).2.2.2]
    exact covers
  · intro pending
    rw [p.finding] at pending
    rw [p.history]
    exact kept.pending pending

end ApiManger.Findings
