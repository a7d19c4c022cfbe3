import ApiManger.Scheduler.Results

/-!
# A checkpoint executed again after a crash

A worker that dies between the result of a checkpoint and its finish leaves the result behind. The
worker that takes the checkpoint up again finishes it from there, by formulas of its own and without
the hook of the adapter.
-/

namespace ApiManger.Scheduler
open Python Store Execution Interleaving Collection

/-- What becomes of a checkpoint that is finished. -/
structure Settled where
  status : CheckpointStatus
  reasons : List String
  summary : Dict
  errorType : String
  result : Option ObjectId
  deriving DecidableEq

def settled (c : SecurityExecutionCheckpoint) : Settled :=
  ⟨c.status, c.reasonCodes, c.outcomeSummary, c.errorType, c.resultId⟩

def settledAs (db : Database) (id : ObjectId) : Option Settled := (db.checkpoint? id).map settled

/-- The end of a first run, once its result is stored. -/
def afterResult (job : Job) (checkpoint : SecurityExecutionCheckpoint) (summary : Dict) (j : Judgement)
    (result : SecurityTestResult) : Code CheckpointOutcome := do
  Prog.when job.adapter.hasRecord (recordHook result.id)
  finishCheckpoint checkpoint.id job.claimed.token (firstRunStatus summary) j.reasons summary
    (some result.id) (Dict.get summary "error_type").strOrEmpty
  return .status (firstRunStatus summary)

/-- The evidence a first run judges. -/
def judgedEvidence (snapshot : RequestSnapshot) (evidence : Dict) : Dict :=
  withParameterQuality evidence (requiredParameterQualitySummary snapshot.parameterSources)

/-! ## Alone -/

/-- One operation of a thread with nothing failing around it. -/
def solo (t : Tid) (o : Op) (s : State) : Except PyError (Ret o) × State :=
  (exec t o {} s).getD (.error driverError, s)

/-- Run code as the only thread. -/
def runAlone {α : Type} (t : Tid) (p : Code α) (s : State) : State :=
  (Prog.alone (S := Sig) (solo t) p s).2

section
variable {s : State} {w k : Nat}

/-- A checkpoint that is held is settled as it is finished. -/
theorem settledAs_finish (keys : Distinct (·.id) s.db.checkpoints) {c : SecurityExecutionCheckpoint}
    (mem : c ∈ s.db.checkpoints) {token : Token} (held : CheckpointWrite.heldBy c token = true)
    (status : CheckpointStatus) (reasons : List String) (summary : Dict) (result : ObjectId) (errorType : String)
    (now : Timestamp) :
    settledAs (s.db.updateCheckpoints (.finish c.id token status reasons summary (some result) errorType now)) c.id =
      some ⟨status, reasons, summary, errorType, some result⟩ := by
  have here : s.db.checkpoint? c.id = some c := keys.lookup_of_mem mem
  have image : (s.db.updateCheckpoints
      (.finish c.id token status reasons summary (some result) errorType now)).checkpoint? c.id =
        some ((CheckpointWrite.finish c.id token status reasons summary (some result) errorType now).on c) := by
    unfold Database.checkpoint? Database.updateCheckpoints
    rw [lookup_map (CheckpointWrite.on_id _)]
    exact congrArg (Option.map _) here
  rw [settledAs, image, Option.map_some, CheckpointWrite.on, if_pos (by simp [CheckpointWrite.guard, held])]
  rfl

/-- What the end of a first run leaves. -/
theorem runAlone_afterResult (job : Job) (c : SecurityExecutionCheckpoint) (summary : Dict) (j : Judgement)
    (r : SecurityTestResult) : runAlone (.pool w k) (afterResult job c summary j r) s =
      { s with
        recorded := if job.adapter.hasRecord then s.recorded ++ [r.id] else s.recorded
        db := s.db.updateCheckpoints (.finish c.id job.claimed.token (firstRunStatus summary) j.reasons summary
          (some r.id) (Dict.get summary "error_type").strOrEmpty s.now) } := by
  unfold afterResult
  cases job.adapter.hasRecord <;> rfl

/-- The host policy takes the outcome of the stored result, where it is asked to. -/
def outcomeTaken (job : Job) (s : State) (w : Nat) (c : SecurityExecutionCheckpoint) (r : SecurityTestResult) : Bool :=
  job.adapter.requestPolicyScope != .checkpoint ||
    (recordHostOutcome (s.workers w).policy (s.workers w).hosts c.host r.evidenceSummary).isOk

/-- What is left of `finishFromExisting` after the host policy was asked. -/
def finishStored (job : Job) (c : SecurityExecutionCheckpoint) (r : SecurityTestResult) : Code CheckpointOutcome := do
  finishCheckpoint c.id job.claimed.token (existingStatus r) r.reasonCodes r.evidenceSummary (some r.id)
    (Dict.get r.evidenceSummary "error_type").strOrEmpty
  return .status (existingStatus r)

theorem runAlone_finishStored (job : Job) (c : SecurityExecutionCheckpoint) (r : SecurityTestResult) :
    runAlone (.pool w k) (finishStored job c r) s = { s with
      db := s.db.updateCheckpoints (.finish c.id job.claimed.token (existingStatus r) r.reasonCodes
        r.evidenceSummary (some r.id) (Dict.get r.evidenceSummary "error_type").strOrEmpty s.now) } := rfl

/-- Where the host policy takes the outcome, a run that finds the result finishes the checkpoint from it;
where it does not, the run raises. -/
theorem runAlone_finishFromExisting (job : Job) (c : SecurityExecutionCheckpoint) (r : SecurityTestResult) :
    ∃ s', s'.db = s.db ∧ s'.recorded = s.recorded ∧ s'.now = s.now ∧
      runAlone (.pool w k) (finishFromExisting job c r) s =
        if outcomeTaken job s w c r then runAlone (.pool w k) (finishStored job c r) s' else s' := by
  by_cases asked : job.adapter.requestPolicyScope = .checkpoint
  · have code : finishFromExisting job c r = Prog.bind (recordOutcome c.host r.evidenceSummary) fun _ =>
        finishStored job c r := by
      unfold finishFromExisting
      rw [decide_eq_true asked]
      rfl
    refine ⟨(solo (.pool w k) (.recordOutcome c.host r.evidenceSummary) s).2, rfl, rfl, rfl, ?_⟩
    have answer : (solo (.pool w k) (.recordOutcome c.host r.evidenceSummary) s).1 =
        (recordHostOutcome (s.workers w).policy (s.workers w).hosts c.host r.evidenceSummary).map fun _ => () := rfl
    have performed : Prog.alone (S := Sig) (solo (.pool w k)) (recordOutcome c.host r.evidenceSummary) s =
        solo (.pool w k) (.recordOutcome c.host r.evidenceSummary) s := Prog.alone_perform _ s
    rw [code, runAlone, Prog.alone_bind, performed, outcomeTaken, asked]
    generalize solo (.pool w k) (.recordOutcome c.host r.evidenceSummary) s = next at *
    obtain ⟨answered, s'⟩ := next
    dsimp only at answer
    subst answer
    cases recordHostOutcome (s.workers w).policy (s.workers w).hosts c.host r.evidenceSummary <;> rfl
  · refine ⟨s, rfl, rfl, rfl, ?_⟩
    have taken : outcomeTaken job s w c r = true := by simp [outcomeTaken, asked]
    rw [if_pos taken]
    unfold finishFromExisting
    rw [decide_eq_false asked]
    rfl

/-- The state after a worker has claimed the checkpoint. -/
def afterClaim (s : State) (id run : ObjectId) (token : Token) : State := { s with db := { s.db with
  checkpoints := s.db.checkpoints.map fun c =>
    if Database.openCheckpoint id run c then claimCheckpointUpdate c token s.now else c } }

variable {q : SecurityExecutionCheckpoint}

/-- A checkpoint whose result is stored is finished from it. -/
theorem runAlone_executeCheckpoint (keys : Distinct (·.id) s.db.checkpoints) (job : Job) (mem : q ∈ s.db.checkpoints) (ofRun : q.runId = job.claimed.run.id)
    (pending : q.status = .pending) {r : SecurityTestResult}
    (found : s.db.results.find? (·.executionKey == some (executionKey job.claimed.run.id q.snapshotId)) = some r) :
    runAlone (.pool w k) (executeCheckpoint job q.id) s =
      runAlone (.pool w k) (finishFromExisting job (claimCheckpointUpdate q job.claimed.token s.now) r)
        (afterClaim s q.id job.claimed.run.id job.claimed.token) := by
  have opened : s.db.checkpoints.find? (Database.openCheckpoint q.id job.claimed.run.id) = some q := by
    cases here : s.db.checkpoints.find? (Database.openCheckpoint q.id job.claimed.run.id) with
    | none =>
      have missed := List.find?_eq_none.mp here q mem
      simp [Database.openCheckpoint, ofRun, pending] at missed
    | some q' =>
      have hit := List.find?_some here
      simp only [Database.openCheckpoint, Bool.and_eq_true, beq_iff_eq] at hit
      rw [keys.eq_of_key (List.mem_of_find?_eq_some here) mem hit.1.1]
  have claimed := s.db.claimedCheckpoint_doc q.id job.claimed.run.id job.claimed.token s.now
  rw [opened, Option.map_some] at claimed
  obtain ⟨⟨doc, isId, run⟩, claimed, same⟩ := Option.map_eq_some_iff.mp claimed
  cases same
  refine Eq.trans (congrArg Prod.snd (Prog.alone_perform_bind (S := Sig) (o := .utcnow) rfl)) ?_
  refine Eq.trans (congrArg Prod.snd (Prog.alone_perform_bind (S := Sig)
    (o := .claimCheckpoint q.id job.claimed.run.id job.claimed.token s.now)
    (congrArg (fun a => (Except.ok a, afterClaim s q.id job.claimed.run.id job.claimed.token)) claimed))) ?_
  refine Eq.trans (congrArg Prod.snd (Prog.alone_perform_bind (S := Sig)
    (o := .findResult (executionKey job.claimed.run.id q.snapshotId))
    (congrArg (fun a => (Except.ok a, afterClaim s q.id job.claimed.run.id job.claimed.token)) found))) ?_
  rfl

theorem afterClaim_mem (mem : q ∈ s.db.checkpoints) {run : ObjectId} (token : Token)
    (ofRun : q.runId = run) (pending : q.status = .pending) :
    claimCheckpointUpdate q token s.now ∈ (afterClaim s q.id run token).db.checkpoints := by
  have image := List.mem_map_of_mem (f := fun c : SecurityExecutionCheckpoint =>
    if Database.openCheckpoint q.id run c then claimCheckpointUpdate c token s.now else c) mem
  have opened : Database.openCheckpoint q.id run q = true := by simp [Database.openCheckpoint, ofRun, pending]
  simp only [opened, if_true] at image
  exact image

theorem afterClaim_keys (keys : Distinct (·.id) s.db.checkpoints) (id run : ObjectId) (token : Token) :
    Distinct (·.id) (afterClaim s id run token).db.checkpoints :=
  keys.map (claimCheckpointUpdate_keeps _ fun _ => rfl)

/-- How a checkpoint is settled that was taken up again: from its result, or not at all where the host policy
raises. -/
theorem settledAs_executeCheckpoint (keys : Distinct (·.id) s.db.checkpoints) (job : Job) (mem : q ∈ s.db.checkpoints) (ofRun : q.runId = job.claimed.run.id)
    (pending : q.status = .pending) {r : SecurityTestResult}
    (found : s.db.results.find? (·.executionKey == some (executionKey job.claimed.run.id q.snapshotId)) = some r) :
    settledAs (runAlone (.pool w k) (executeCheckpoint job q.id) s).db q.id = some
      (if outcomeTaken job s w q r then ⟨existingStatus r, r.reasonCodes, r.evidenceSummary,
          (Dict.get r.evidenceSummary "error_type").strOrEmpty, some r.id⟩
        else settled (claimCheckpointUpdate q job.claimed.token s.now)) ∧
    (runAlone (.pool w k) (executeCheckpoint job q.id) s).recorded = s.recorded := by
  rw [runAlone_executeCheckpoint keys job mem ofRun pending found]
  obtain ⟨s', db, recorded, _, run⟩ := runAlone_finishFromExisting (w := w) (k := k)
    (s := afterClaim s q.id job.claimed.run.id job.claimed.token) job
    (claimCheckpointUpdate q job.claimed.token s.now) r
  have taken : outcomeTaken job (afterClaim s q.id job.claimed.run.id job.claimed.token) w
      (claimCheckpointUpdate q job.claimed.token s.now) r = outcomeTaken job s w q r := rfl
  have claimed := afterClaim_mem mem job.claimed.token ofRun pending
  have claimedKeys := afterClaim_keys keys q.id job.claimed.run.id job.claimed.token
  rw [run, taken]
  split
  · rw [runAlone_finishStored]
    refine ⟨?_, recorded⟩
    rw [← db] at claimed claimedKeys
    exact settledAs_finish claimedKeys claimed (by simp [CheckpointWrite.heldBy, claimCheckpointUpdate]) ..
  · refine ⟨?_, recorded⟩
    have here := claimedKeys.lookup_of_mem claimed
    rw [settledAs, db]
    exact congrArg (Option.map settled) here

end

/-! ## The crash -/

/-- A first run of the checkpoint has judged the evidence of its replay and stored the result, and holds the
checkpoint. -/
structure StoredFirst (s : State) (job : Job) (c : SecurityExecutionCheckpoint) (snapshot : RequestSnapshot)
    (evidence summary : Dict) (j : Judgement) (r : SecurityTestResult) : Prop where
  sanitized : sanitizeExecutionEvidence (judgedEvidence snapshot evidence) = .ok summary
  judged : judge job snapshot (judgedEvidence snapshot evidence) = .ok j
  document : ∃ id now, r = resultDocument job.claimed.run snapshot
    (resultInput job c snapshot (judgedEvidence snapshot evidence) summary j) id now
  stored : r ∈ s.db.results
  held : ∃ k ∈ s.db.checkpoints, k.id = c.id ∧ k.runId = job.claimed.run.id ∧ k.snapshotId = c.snapshotId ∧
    CheckpointWrite.heldBy k job.claimed.token = true

/-- The checkpoint was given back, and another job of the run is to execute it, under an adapter with the same
hook. -/
structure GivenBack (s : State) (job job' : Job) (c q : SecurityExecutionCheckpoint) : Prop where
  sameRun : job'.claimed.run.id = job.claimed.run.id
  sameHook : job'.adapter.hasRecord = job.adapter.hasRecord
  stored : q ∈ s.db.checkpoints
  sameId : q.id = c.id
  pending : q.status = .pending

/-- Executed again from `s'`, the checkpoint is settled as the first run would have settled it from `s`, and the
hook of the adapter was applied to the result. -/
structure AsIfFinished (s s' : State) (t t' : Tid) (job job' : Job) (c : SecurityExecutionCheckpoint) (summary : Dict)
    (j : Judgement) (r : SecurityTestResult) : Prop where
  settled : settledAs (runAlone t (afterResult job c summary j r) s).db c.id =
    settledAs (runAlone t' (executeCheckpoint job' c.id) s').db c.id
  hooked : job.adapter.hasRecord = true → r.id ∈ (runAlone t' (executeCheckpoint job' c.id) s').recorded

/-- The stored result says by itself what the first run would have said, the hook came before the crash, and the
host policy takes the stored outcome. -/
structure ReplaySafe (s : State) (w : Nat) (job : Job) (q : SecurityExecutionCheckpoint) (r : SecurityTestResult) :
    Prop where
  verdict : r.verdict = "error" → Dict.truthy r.evidenceSummary "error_type" = true
  hook : job.adapter.hasRecord = true → r.id ∈ s.recorded
  outcome : outcomeTaken job s w q r = true

theorem existingStatus_eq_iff (r : SecurityTestResult) : existingStatus r = firstRunStatus r.evidenceSummary ↔
    (r.verdict = "error" → Dict.truthy r.evidenceSummary "error_type" = true) := by
  unfold existingStatus firstRunStatus
  cases Dict.truthy r.evidenceSummary "error_type" with
  | true => simp
  | false => by_cases verdict : r.verdict = "error" <;> simp [verdict, statusOfError]

section
variable {snapshots : List RequestSnapshot} {relations : List ParameterRelation} {d e : Config scheduler}
  {job job' : Job} {c q : SecurityExecutionCheckpoint} {snapshot : RequestSnapshot} {evidence summary : Dict}
  {j : Judgement} {r : SecurityTestResult} {w k : Nat}

theorem StoredFirst.key (first : StoredFirst d.state job c snapshot evidence summary j r) :
    r.executionKey = some (executionKey job.claimed.run.id c.snapshotId) := by
  obtain ⟨id, now, rfl⟩ := first.document
  have keyed := executionKey_ne_empty job.claimed.run.id c.snapshotId
  simp [resultDocument, resultInput, keyed]

/-- The first run would settle the checkpoint by its own judgement. -/
theorem StoredFirst.settles (consistent : Consistent d.state)
    (first : StoredFirst d.state job c snapshot evidence summary j r) :
    settledAs (runAlone (.pool w k) (afterResult job c summary j r) d.state).db c.id =
      some ⟨firstRunStatus r.evidenceSummary, r.reasonCodes, r.evidenceSummary,
        (Dict.get r.evidenceSummary "error_type").strOrEmpty, some r.id⟩ := by
  obtain ⟨row, mem, id, _, _, held⟩ := first.held
  have same : r.evidenceSummary = summary ∧ r.reasonCodes = j.reasons := by
    obtain ⟨id, now, rfl⟩ := first.document
    exact ⟨rfl, rfl⟩
  rw [runAlone_afterResult, same.1, same.2, ← id]
  exact settledAs_finish consistent.keys.checkpointIds mem held ..

/-- What the other worker finds: the checkpoint of the case, and the stored result under its key. -/
theorem GivenBack.finds (reached : Run (Guard.free scheduler) (initial snapshots relations) d)
    (crashed : Run (Guard.free scheduler) d e) (first : StoredFirst d.state job c snapshot evidence summary j r)
    (again : GivenBack e.state job job' c q) : q.runId = job'.claimed.run.id ∧
      e.state.db.results.find? (·.executionKey == some (executionKey job'.claimed.run.id q.snapshotId)) = some r := by
  have consistent := consistent_of_run (reached.trans crashed)
  have grows := (storeInvariant (fun s => Grows d.state s)
    (fun _ _ _ _ _ _ _ _ change grown => grown.trans change.grows)
    (fun _ _ same grown => grown.trans (.of_sameStore same)) reached crashed (consistent_of_run reached) (.refl _)).2
  obtain ⟨row, mem, id, run, case_, _⟩ := first.held
  obtain ⟨row', mem', id', run', case'⟩ := grows.checkpoints row mem
  obtain rfl : row' = q := consistent.keys.checkpointIds.eq_of_key mem' again.stored
    ((id'.trans id).trans again.sameId.symm)
  have key : some (executionKey job'.claimed.run.id row'.snapshotId) = r.executionKey := by
    rw [first.key, again.sameRun, case', case_]
  refine ⟨by rw [run', run, again.sameRun], ?_⟩
  rw [key]
  have stored := grows.results r first.stored
  cases found : e.state.db.results.find? (·.executionKey == r.executionKey) with
  | none => simpa using List.find?_eq_none.mp found r stored
  | some r' =>
    have same : (r'.executionKey == r.executionKey) = true :=
      List.find?_some (p := fun x : SecurityTestResult => x.executionKey == r.executionKey) found
    rw [beq_iff_eq] at same
    have keyed : r'.executionKey.isSome = true := by rw [same, ← key]; rfl
    rw [consistent.keys.resultKeys r' (List.mem_of_find?_eq_some found) r stored keyed same]

end

/-- **Crash and replay.** A checkpoint that is executed again after its result was stored ends as if the first run
had finished it if and only if an `error` verdict came with an error type, the hook was applied before the crash,
and the host policy takes the stored outcome. -/
theorem crash_replay_iff (snapshots : List RequestSnapshot) (relations : List ParameterRelation)
    (d e : Config scheduler) (reached : Run (Guard.free scheduler) (initial snapshots relations) d)
    (crashed : Run (Guard.free scheduler) d e) (w k w' k' : Nat) (job job' : Job) (c q : SecurityExecutionCheckpoint)
    (snapshot : RequestSnapshot) (evidence summary : Dict) (j : Judgement) (r : SecurityTestResult)
    (first : StoredFirst d.state job c snapshot evidence summary j r) (again : GivenBack e.state job job' c q) :
    AsIfFinished d.state e.state (.pool w k) (.pool w' k') job job' c summary j r ↔
      ReplaySafe e.state w' job' q r := by
  obtain ⟨ofRun, found⟩ := again.finds reached crashed first
  have keys := (consistent_of_run (reached.trans crashed)).keys.checkpointIds
  obtain ⟨replayed, recorded⟩ := settledAs_executeCheckpoint (w := w') (k := k') keys job' again.stored ofRun
    again.pending found
  have settles := first.settles (w := w) (k := k) (consistent_of_run reached)
  rw [again.sameId] at replayed recorded
  constructor
  · rintro ⟨same, hooked⟩
    rw [settles, replayed, Option.some.injEq] at same
    by_cases taken : outcomeTaken job' e.state w' q r = true
    · rw [if_pos taken, Settled.mk.injEq] at same
      refine ⟨(existingStatus_eq_iff r).mp same.1.symm, fun hook => ?_, taken⟩
      rw [recorded] at hooked
      exact hooked (again.sameHook ▸ hook)
    · -- the run that raised has left the checkpoint running
      rw [if_neg taken, settled, claimCheckpointUpdate, Settled.mk.injEq] at same
      have status := same.1
      unfold firstRunStatus statusOfError at status
      split at status <;> cases status
  · rintro ⟨verdict, hook, taken⟩
    refine ⟨?_, fun hooked => ?_⟩
    · rw [settles, replayed, if_pos taken, (existingStatus_eq_iff r).mpr verdict]
    · rw [recorded]
      exact hook (again.sameHook.symm ▸ hooked)

/-- Every crash between the result and the finish is made up for. -/
def CrashesReplayed : Prop :=
  ∀ (snapshots : List RequestSnapshot) (relations : List ParameterRelation) (d e : Config scheduler),
    Run (Guard.free scheduler) (initial snapshots relations) d → Run (Guard.free scheduler) d e →
    ∀ (w k w' k' : Nat) (job job' : Job) (c q : SecurityExecutionCheckpoint) (snapshot : RequestSnapshot)
      (evidence summary : Dict) (j : Judgement) (r : SecurityTestResult),
      StoredFirst d.state job c snapshot evidence summary j r → GivenBack e.state job job' c q →
        AsIfFinished d.state e.state (.pool w k) (.pool w' k') job job' c summary j r

/-- A pool thread of worker 0 executes the checkpoint of the batch up to its stored result. -/
def storedThenCrashed (evidence : Dict) : List (Label scheduler) :=
  called 0 (.enqueue getBatch) 9 ++ worked 0 22 { count := 3 } ++
    pooled 0 0 16 { count := 1, step := .returned evidence }

/-- The lease expires, and worker 1 recovers the run, claims it and submits its checkpoint. -/
def takenUpAgain : List (Label scheduler) := .environment (.elapse 61) :: worked 1 30 { count := 3 }

/-- The stored result and the job that is to execute the checkpoint again, where they pass a test. -/
def crashScene (evidence : Dict) (test : State → State → Job → Job → SecurityExecutionCheckpoint →
    SecurityExecutionCheckpoint → Dict → Judgement → SecurityTestResult → Bool) (d : Config scheduler) : Bool :=
  match (d.state.workers 0).job, d.state.db.checkpoints, d.state.db.results,
      sanitizeExecutionEvidence (judgedEvidence getSnapshot evidence) with
  | some job, [c], [r], .ok summary =>
    match judge job getSnapshot (judgedEvidence getSnapshot evidence) with
    | .ok j =>
      decide (r = resultDocument job.claimed.run getSnapshot
        (resultInput job c getSnapshot (judgedEvidence getSnapshot evidence) summary j) r.id r.ctime) &&
      c.runId == job.claimed.run.id && CheckpointWrite.heldBy c job.claimed.token &&
      (d.follow (Guard.free scheduler) takenUpAgain).any fun e =>
        match (e.state.workers 1).job, e.state.db.checkpoints with
        | some job', [q] => job'.claimed.run.id == job.claimed.run.id &&
          job'.adapter.hasRecord == job.adapter.hasRecord && q.id == c.id && q.status == .pending &&
          test d.state e.state job job' c q summary j r
        | _, _ => false
    | .error _ => false
  | _, _, _, _ => false

theorem of_crashScene {evidence : Dict} {test : State → State → Job → Job → SecurityExecutionCheckpoint →
    SecurityExecutionCheckpoint → Dict → Judgement → SecurityTestResult → Bool} {d : Config scheduler}
    (scene : crashScene evidence test d = true) : ∃ (e : Config scheduler) (job job' : Job)
      (c q : SecurityExecutionCheckpoint) (summary : Dict) (j : Judgement) (r : SecurityTestResult),
      Run (Guard.free scheduler) d e ∧ StoredFirst d.state job c getSnapshot evidence summary j r ∧
        GivenBack e.state job job' c q ∧ test d.state e.state job job' c q summary j r = true := by
  unfold crashScene at scene
  split at scene
  · rename_i job c r summary _ rows results sanitized
    split at scene
    · rename_i j judged
      obtain ⟨scene, later⟩ := Bool.and_eq_true_iff.mp scene
      obtain ⟨e, crashed, later⟩ := (Option.any_eq_true _ _).mp later
      simp only [Bool.and_eq_true, beq_iff_eq, decide_eq_true_eq] at scene
      obtain ⟨⟨document, ofRun⟩, held⟩ := scene
      split at later
      · rename_i job' q _ rows'
        simp only [Bool.and_eq_true, beq_iff_eq] at later
        obtain ⟨⟨⟨⟨sameRun, sameHook⟩, sameId⟩, pending⟩, passes⟩ := later
        refine ⟨e, job, job', c, q, summary, j, r, .of_follow crashed, ?_, ?_, passes⟩
        · exact ⟨sanitized, judged, ⟨_, _, document⟩, by simp [results],
            c, by simp [rows], rfl, ofRun, rfl, held⟩
        · exact ⟨sameRun, sameHook, by simp [rows'], sameId, pending⟩
      · cases later
    · cases scene
  · cases scene

/-- A response without a status code is judged an error but has no error type: the first run would have ended
with `done`, the second one ends with `error`. -/
theorem crash_not_replayed : ¬ CrashesReplayed := by
  intro replayed
  obtain ⟨d, reached, found⟩ := Run.exists_of_follow
    (P := crashScene [] fun s s' job job' c _ summary j r =>
      settledAs (runAlone (.pool 0 0) (afterResult job c summary j r) s).db c.id !=
        settledAs (runAlone (.pool 1 0) (executeCheckpoint job' c.id) s').db c.id)
    (show ((initial [getSnapshot] []).follow (Guard.free scheduler) (storedThenCrashed [])).any _ = true by
      decide +kernel)
  obtain ⟨e, job, job', c, q, summary, j, r, crashed, first, again, differ⟩ := of_crashScene found
  have same := (replayed _ _ d e reached crashed 0 0 1 0 job job' c q _ _ _ _ _ first again).settled
  exact absurd same (bne_iff_ne.mp differ)

/-- A response with a status code is replayed as it was judged. -/
theorem crash_replayed_ok : ∃ (d e : Config scheduler) (job job' : Job) (c : SecurityExecutionCheckpoint)
    (summary : Dict) (j : Judgement) (r : SecurityTestResult),
    Run (Guard.free scheduler) (initial [getSnapshot] []) d ∧ Run (Guard.free scheduler) d e ∧ r.verdict = "not_evaluable" ∧
      AsIfFinished d.state e.state (.pool 0 0) (.pool 1 0) job job' c summary j r := by
  obtain ⟨d, reached, found⟩ := Run.exists_of_follow
    (P := crashScene [("status_code", .int 200)] fun _ s' _ job' _ q _ _ r =>
      r.verdict == "not_evaluable" && !job'.adapter.hasRecord && outcomeTaken job' s' 1 q r)
    (show ((initial [getSnapshot] []).follow (Guard.free scheduler)
        (storedThenCrashed [("status_code", .int 200)])).any _ = true by decide +kernel)
  obtain ⟨e, job, job', c, q, summary, j, r, crashed, first, again, safe⟩ := of_crashScene found
  simp only [Bool.and_eq_true, beq_iff_eq, Bool.not_eq_true'] at safe
  obtain ⟨⟨verdict, unhooked⟩, taken⟩ := safe
  have replays : ReplaySafe e.state 1 job' q r :=
    ⟨by simp [verdict], by simp [unhooked], taken⟩
  exact ⟨d, e, job, job', c, summary, j, r, reached, crashed, verdict,
    (crash_replay_iff _ _ d e reached crashed 0 0 1 0 job job' c q _ _ _ _ _ first again).mpr replays⟩

end ApiManger.Scheduler
