import ApiManger.Interleaving.Call
import ApiManger.Scheduler.Rely
import ApiManger.Scheduler.Terminal

/-!
# One result for each execution key

Whatever the workers do, a result is stored once under its key, a call that records one
returns the stored one, and a checkpoint with a result has the one of its run and snapshot.
-/

namespace ApiManger.Scheduler
open Python Store Execution Interleaving Collection

/-- Every checkpoint with a result has the one of its execution key. -/
def Pointed (s : State) : Prop :=
  ∀ c ∈ s.db.checkpoints, ∀ id, c.resultId = some id →
    ∃ r ∈ s.db.results, r.id = id ∧ r.executionKey = some (executionKey c.runId c.snapshotId)

/-- What no step takes back: results, and which case a checkpoint is for. -/
structure Grows (s s' : State) : Prop where
  results : ∀ r ∈ s.db.results, r ∈ s'.db.results
  checkpoints : ∀ c ∈ s.db.checkpoints,
    ∃ c' ∈ s'.db.checkpoints, c'.id = c.id ∧ c'.runId = c.runId ∧ c'.snapshotId = c.snapshotId

/-- The operation finishes a checkpoint with a result. -/
def Op.points : Op → Option (ObjectId × ObjectId)
  | .updateCheckpoints (.finish id _ _ _ _ result _ _) => result.map fun result => (id, result)
  | _ => none

theorem Grows.refl (s : State) : Grows s s := ⟨fun _ mem => mem, fun c mem => ⟨c, mem, rfl, rfl, rfl⟩⟩

theorem Grows.trans {a b c : State} (h : Grows a b) (h' : Grows b c) : Grows a c where
  results r mem := h'.results r (h.results r mem)
  checkpoints k mem := by
    obtain ⟨k', mem', id', run', case'⟩ := h.checkpoints k mem
    obtain ⟨k'', mem'', id'', run'', case''⟩ := h'.checkpoints k' mem'
    exact ⟨k'', mem'', id''.trans id', run''.trans run', case''.trans case'⟩

theorem Grows.of_sameStore {s s' : State} (same : SameStore s s') : Grows s s' where
  results _ mem := same.results ▸ mem
  checkpoints c mem := ⟨c, same.checkpoints ▸ mem, rfl, rfl, rfl⟩

section
variable {t : Tid} {i : Input} {s s' : State} {o : Op}

theorem Change.grows (h : Change t i s o s') : Grows s s' where
  results _ mem := h.result_kept mem
  checkpoints c mem := by
    cases h.checkpoint_next mem with
    | kept mem' => exact ⟨c, mem', rfl, rfl, rfl⟩
    | claimed id run token now op isId ofRun pending mem' => exact ⟨_, mem', rfl, rfl, rfl⟩
    | updated w op guard mem' =>
      exact ⟨_, mem', CheckpointWrite.apply_id c w, CheckpointWrite.apply_runId c w, CheckpointWrite.apply_snapshotId c w⟩

theorem CheckpointWrite.apply_resultId (c : SecurityExecutionCheckpoint) (w : CheckpointWrite) :
    (apply c w).resultId = c.resultId ∨
      ∃ id result, Op.points (.updateCheckpoints w) = some (id, result) ∧ (apply c w).resultId = some result := by
  cases w with
  | finish id token status reasons summary result errorType now =>
    cases result with
    | none => exact .inl rfl
    | some result => exact .inr ⟨id, result, rfl, rfl⟩
  | _ => exact .inl rfl

/-- Every operation keeps the results of the checkpoints, where a finish comes with the right one. -/
theorem Pointed.step (pointed : Pointed s) (fresh : o.Fresh) (h : Change t i s o s')
    (right : ∀ id result, o.points = some (id, result) → ∀ c ∈ s.db.checkpoints, c.id = id →
      ∃ r ∈ s.db.results, r.id = result ∧ r.executionKey = some (executionKey c.runId c.snapshotId)) : Pointed s' := by
  intro c' mem' id stored
  have grown : (∃ r ∈ s.db.results, r.id = id ∧ r.executionKey = some (executionKey c'.runId c'.snapshotId)) →
      ∃ r ∈ s'.db.results, r.id = id ∧ r.executionKey = some (executionKey c'.runId c'.snapshotId) :=
    fun ⟨r, mem, here⟩ => ⟨r, h.grows.results r mem, here⟩
  refine grown ?_
  cases h.checkpoint_origin mem' with
  | kept mem => exact pointed c' mem id stored
  | inserted c op eq free =>
    subst op eq
    have none_ : c.resultId = none := FreshCheckpoint.result fresh
    rw [show ({ c with id := s.db.nextId } : SecurityExecutionCheckpoint).resultId = c.resultId from rfl, none_] at stored
    cases stored
  | claimed _ run token now c op mem isId ofRun pending eq =>
    subst eq
    exact pointed c mem id stored
  | updated w c op mem guard eq =>
    subst eq
    rw [CheckpointWrite.apply_runId, CheckpointWrite.apply_snapshotId]
    rcases CheckpointWrite.apply_resultId c w with same | ⟨target, result, points, given⟩
    · exact pointed c mem id (same ▸ stored)
    · obtain rfl : result = id := Option.some.inj (given.symm.trans stored)
      refine right target result (op ▸ points) c mem ?_
      cases w with
      | finish cid token status reasons summary res errorType now =>
        simp only [CheckpointWrite.guard, Bool.and_eq_true, beq_iff_eq] at guard
        cases res with
        | none => cases points
        | some res =>
          cases points
          exact guard.1
      | _ => cases points

end

/-! ## The contract -/

/-- Results are recorded: nothing is taken back, and checkpoints have the results of their keys. -/
def recording : Contract scheduler where
  guard := Guard.free scheduler
  known := Consistent
  inv := Pointed
  guar _ := Grows

/-- The document is stored under the key. -/
def Recorded (key : String) (r : SecurityTestResult) (s : State) : Prop :=
  r ∈ s.db.results ∧ r.executionKey = some key

/-- The checkpoint is there, for its case. -/
def Stands (c : SecurityExecutionCheckpoint) (s : State) : Prop :=
  ∃ k ∈ s.db.checkpoints, k.id = c.id ∧ k.runId = c.runId ∧ k.snapshotId = c.snapshotId

theorem recording_idle : Idle recording := fun _ s _ => Grows.refl s

theorem recorded_persistent (key : String) (r : SecurityTestResult) : recording.Persistent (Recorded key r) :=
  fun _ _ _ _ _ _ _ grows now => ⟨grows.results r now.1, now.2⟩

theorem stands_persistent (c : SecurityExecutionCheckpoint) : recording.Persistent (Stands c) := by
  intro _ s s' _ _ _ _ grows ⟨k, mem, id, run, snapshot⟩
  obtain ⟨k', mem', id', run', snapshot'⟩ := grows.checkpoints k mem
  exact ⟨k', mem', id'.trans id, run'.trans run, snapshot'.trans snapshot⟩

section
variable {t : Tid} {φ : State → Prop} {α : Type}

/-- An operation that is safe whatever it answers. -/
theorem recording_keeps {o : Op} (persistent : recording.Persistent φ) (fresh : o.Fresh)
    (right : ∀ s, Consistent s → φ s → ∀ id result, o.points = some (id, result) → ∀ c ∈ s.db.checkpoints, c.id = id →
      ∃ r ∈ s.db.results, r.id = result ∧ r.executionKey = some (executionKey c.runId c.snapshotId)) :
    recording.Keeps t φ o fun _ => φ := by
  refine keeps_of_post recording_idle (fun _ _ _ _ now => now) ?_
  intro s i s' known known' inv now _ posted
  have change := post_change posted
  have pointed := inv.step fresh change (right s known now)
  have still := persistent (some t) s s' known known' inv pointed change.grows now
  exact ⟨pointed, change.grows, still, fun _ => still⟩

/-- Code that finishes no checkpoint with a result keeps what no step takes back. -/
theorem recording_frame {p : Code α} (persistent : recording.Persistent φ)
    (uses : p.Uses fun o : Op => o.Fresh ∧ o.points = none) : recording.Safe t φ p (fun _ => φ) (fun _ => φ) :=
  .of_uses uses (persistent.stable t) fun _ plain =>
    recording_keeps persistent plain.1 fun _ _ _ _ _ points => by
      rw [plain.2] at points
      cases points

end

/-! ## The code that records nothing -/

variable {o : Op}

theorem Op.points_of_read (read : o.isRead = true) : o.points = none := by
  cases o <;> first | rfl | cases read

theorem RequeueOp.points (h : RequeueOp o) : o.points = none := by
  cases h with
  | read h => exact Op.points_of_read h
  | _ => rfl

theorem RecoverOp.points (h : RecoverOp o) : o.points = none := by
  cases h with
  | requeue h => exact h.points
  | _ => rfl

theorem CallOp.points (h : CallOp o) : o.points = none := by
  cases h with
  | recover h => exact h.points
  | resume h =>
    cases h with
    | read h => exact Op.points_of_read h
    | _ => rfl
  | _ => rfl

theorem ClaimedOp.points {claimed : ClaimedRun} (h : ClaimedOp claimed o) : o.points = none := by
  cases h with
  | failure h =>
    cases h with
    | read h => exact Op.points_of_read h
    | _ => rfl
  | _ => rfl

theorem WorkerOp.points (h : WorkerOp o) : o.points = none := by
  cases h with
  | recover h => exact h.points
  | claimRun => rfl
  | dispatch h =>
    cases h with
    | loop cl h =>
      cases h with
      | claimed h => exact h.points
      | submit id => rfl
    | settle cl h =>
      cases h with
      | claimed h => exact h.points
      | _ => rfl
    | startExecution job => rfl

theorem HeartbeatOp.points {job : Job} (h : HeartbeatOp job o) : o.points = none := by
  cases h with
  | read h => exact Op.points_of_read h
  | _ => rfl

/-- A pool thread that stores nothing. -/
theorem PoolOp.plain {job : Job} {id : ObjectId} (h : PoolOp job id false o) : o.Fresh ∧ o.points = none := by
  cases h with
  | read h => exact ⟨Op.fresh_of_read h, Op.points_of_read h⟩
  | finish status reasons summary result errorType now final stores =>
    cases result with
    | none => exact ⟨trivial, rfl⟩
    | some result => cases stores rfl
  | insertResult r stores => cases stores
  | recordHook result stores => cases stores
  | _ => exact ⟨trivial, rfl⟩

/-! ## The code that records -/

section
variable {t : Tid}

variable {φ : State → Prop} {c : SecurityExecutionCheckpoint}

/-- A read that keeps what no step takes back, with what its answer says. -/
theorem recording_read {o : Op} {Q : Ret o → State → Prop} (read : o.isRead = true)
    (persistent : recording.Persistent φ) (stable : ∀ r, recording.Persistent (Q r))
    (answers : ∀ i s r, φ s → reply t i s o = .ok r → Q r s) :
    recording.Safe t φ (@Prog.perform Sig o) (fun r s => φ s ∧ Q r s) (fun _ => φ) :=
  read_safe read recording_idle (fun r => (persistent.and (stable r)).stable t) (fun _ => persistent.stable t)
    (fun i s r _ _ now _ answer => ⟨now, answers i s r now answer⟩) fun _ _ _ _ now => now

/-- Looking for a result finds what is recorded under the key. -/
theorem findResult_records (key : String) (persistent : recording.Persistent φ) :
    recording.Safe t φ (findResult key) (fun found s => φ s ∧ ∀ r, found = some r → Recorded key r s) (fun _ => φ) := by
  refine recording_read rfl persistent (fun found => ?_) fun i s found _ answer r here => ?_
  · exact fun u s s' ks ks' is is' grows now r here => recorded_persistent key r u s s' ks ks' is is' grows (now r here)
  · cases answer
    have keyed := List.find?_some here
    exact ⟨List.mem_of_find?_eq_some here, beq_iff_eq.mp keyed⟩

theorem executionKey_ne_empty (run snapshot : ObjectId) : executionKey run snapshot ≠ "" := by
  intro empty
  have length := congrArg String.length empty
  rw [executionKey, String.length_append, String.length_append] at length
  have colon : ":".length = 1 := rfl
  have none_ : "".length = 0 := rfl
  omega

/-- A document that is inserted is recorded, or else the one that has its key. -/
theorem insertOrFindResult_records (persistent : recording.Persistent φ) {result : SecurityTestResult}
    {key : String} (keyed : result.executionKey = some key) :
    recording.Safe t φ (insertOrFindResult result key) (fun r s => φ s ∧ Recorded key r s) (fun _ => φ) := by
  refine Contract.Safe.handle (E := fun _ => φ) ?_ fun e => ?_
  · refine Contract.Safe.perform (fun r => (persistent.and (recorded_persistent key r)).stable t)
      (fun _ => persistent.stable t) (keeps_of_post recording_idle (fun _ _ _ _ now => now) ?_)
    intro s i s' known known' inv now _ posted
    have change := post_change posted
    have pointed : Pointed s' := Pointed.step inv (o := .insertResult result) trivial change fun _ _ points => nomatch points
    have still := persistent (some t) s s' known known' inv pointed change.grows now
    refine ⟨pointed, change.grows, ?_, fun _ => still⟩
    rw [reply]
    rw [post] at posted
    split at posted
    · next taken =>
      rw [if_pos taken]
      exact still
    · next free =>
      cases posted
      rw [if_neg free]
      exact ⟨still, List.mem_append_right _ (.head _), keyed⟩
  · refine Contract.Safe.ite (fun _ => ?_) fun _ => Contract.Safe.raise fun _ _ _ now => now
    refine Contract.Safe.bind (findResult_records key persistent) fun found => ?_
    cases found with
    | none => exact Contract.Safe.raise fun _ _ _ now => now.1
    | some stored => exact Contract.Safe.ret fun _ _ _ now => ⟨now.1, now.2 stored rfl⟩

/-- A call that records a result returns the one that is stored under its key. -/
theorem recordExecutionResultInput_records (persistent : recording.Persistent φ) (run : SecurityTestRun)
    (snapshot : RequestSnapshot) {value : ExecutionResultInput} (keyed : value.executionKey ≠ "") :
    recording.Safe t φ (recordExecutionResultInput run snapshot value)
      (fun r s => φ s ∧ Recorded value.executionKey r s) (fun _ => φ) := by
  refine Contract.Safe.ofExcept_bind (fun _ _ => ?_) fun _ _ _ _ _ now => now
  have looked : recording.Safe t φ (existingResult value.executionKey)
      (fun found s => φ s ∧ ∀ r, found = some r → Recorded value.executionKey r s) (fun _ => φ) := by
    unfold existingResult
    rw [if_neg (by simpa using keyed)]
    exact findResult_records value.executionKey persistent
  refine Contract.Safe.bind looked fun existing => ?_
  cases existing with
  | some existing => exact Contract.Safe.ret fun _ _ _ now => ⟨now.1, now.2 existing rfl⟩
  | none =>
    refine Contract.Safe.pre ?_ fun s _ _ now => now.1
    refine Contract.Safe.bind (read_frame rfl recording_idle (persistent.stable t) (fun _ => persistent.stable t)
      fun _ _ _ _ now => now) fun now => insertOrFindResult_records persistent ?_
    have keys : (resultDocument run snapshot value 0 now).executionKey =
        if value.executionKey == "" then none else some value.executionKey := rfl
    rw [keys, if_neg (by simpa using keyed)]

variable (job : Job)

/-- A checkpoint is finished with the result that is recorded under its key. -/
theorem finishCheckpoint_records (c : SecurityExecutionCheckpoint) (r : SecurityTestResult)
    (status : CheckpointStatus) (reasons : List String) (summary : Dict) (errorType : String) :
    recording.Safe t (fun s => Stands c s ∧ Recorded (executionKey c.runId c.snapshotId) r s)
      (finishCheckpoint c.id job.claimed.token status reasons summary (some r.id) errorType)
      (fun _ _ => True) (fun _ _ => True) := by
  have persistent : recording.Persistent fun s => Stands c s ∧ Recorded (executionKey c.runId c.snapshotId) r s :=
    (stands_persistent c).and (recorded_persistent _ r)
  have free : recording.Stable t fun _ => True := Contract.Stable.true (C := recording) t
  refine Contract.Safe.bind (read_frame rfl recording_idle (persistent.stable t) (fun _ => free)
    fun _ _ _ _ _ => trivial) fun now => ?_
  refine Contract.Safe.perform (fun _ => free) (fun _ => free) ?_
  have keeps := recording_keeps (t := t) (o := .updateCheckpoints
    (.finish c.id job.claimed.token status reasons summary (some r.id) errorType now)) persistent trivial ?_
  · intro s d answer s' known inv holds admitted exec known'
    obtain ⟨inv', grows, _⟩ := keeps s d answer s' known inv holds admitted exec known'
    refine ⟨inv', grows, ?_⟩
    cases answer <;> exact trivial
  · intro s known holds id result points k mem isId
    cases points
    obtain ⟨⟨k', mem', id', run', snapshot'⟩, recorded, keyed⟩ := holds
    have eq : k = k' := known.keys.checkpointIds.eq_of_key mem mem' (isId.trans id'.symm)
    rw [eq, run', snapshot']
    exact ⟨r, recorded, rfl, keyed⟩

/-- What a checkpoint is executed with: it is there, and it is one of the run of the job. -/
def Working (c : SecurityExecutionCheckpoint) (s : State) : Prop :=
  Stands c s ∧ c.runId = job.claimed.run.id

theorem working_persistent (c : SecurityExecutionCheckpoint) : recording.Persistent (Working job c) :=
  (stands_persistent c).and .const

/-- Code of a pool thread that stores nothing. -/
theorem recording_pool {job : Job} {id : ObjectId} {α : Type} {p : Code α}
    (uses : p.Uses (PoolOp job id false)) :
    recording.Safe t (Working job c) p (fun _ => Working job c) (fun _ => Working job c) :=
  recording_frame (working_persistent job c) (uses.mono fun _ => PoolOp.plain)

theorem finishFromExisting_records {job : Job} {existing : SecurityTestResult} :
    recording.Safe t
      (fun s => Working job c s ∧ Recorded (executionKey job.claimed.run.id c.snapshotId) existing s)
      (finishFromExisting job c existing) (fun _ _ => True) (fun _ _ => True) := by
  have persistent : recording.Persistent fun s =>
      Working job c s ∧ Recorded (executionKey job.claimed.run.id c.snapshotId) existing s :=
    (working_persistent job c).and (recorded_persistent _ existing)
  have plain : (Prog.when (job.adapter.requestPolicyScope = .checkpoint)
      (recordOutcome c.host existing.evidenceSummary)).Uses fun o : Op => o.Fresh ∧ o.points = none :=
    .when (.perform ⟨trivial, rfl⟩)
  refine Contract.Safe.bind ((recording_frame persistent plain).weaken (fun _ _ _ now => now) (fun _ _ _ _ now => now)
    fun _ _ _ _ _ => trivial) fun _ => ?_
  refine Contract.Safe.bind ((finishCheckpoint_records job c existing _ _ _ _).pre ?_) fun _ =>
    Contract.Safe.ret fun _ _ _ _ => trivial
  rintro s - - ⟨⟨stands, run⟩, recorded⟩
  exact ⟨stands, run ▸ recorded⟩

theorem recordFirstRun_records {job : Job} (snapshot : RequestSnapshot) (evidence : Dict) :
    recording.Safe t (Working job c) (recordFirstRun job c snapshot evidence) (fun _ _ => True) (fun _ _ => True) := by
  have persistent := working_persistent job c
  have plain : (Prog.when (job.adapter.requestPolicyScope = .checkpoint)
      (recordOutcome c.host evidence)).Uses fun o : Op => o.Fresh ∧ o.points = none := .when (.perform ⟨trivial, rfl⟩)
  refine Contract.Safe.bind ((recording_frame persistent plain).weaken (fun _ _ _ now => now) (fun _ _ _ _ now => now)
    fun _ _ _ _ _ => trivial) fun _ => ?_
  refine Contract.Safe.ofExcept_bind (fun summary _ => ?_) fun _ _ _ _ _ _ => trivial
  refine Contract.Safe.ofExcept_bind (fun judgement _ => ?_) fun _ _ _ _ _ _ => trivial
  refine Contract.Safe.bind ((recordExecutionResultInput_records persistent job.claimed.run snapshot
    (executionKey_ne_empty _ _)).weaken (fun _ _ _ now => now) (fun _ _ _ _ now => now) fun _ _ _ _ _ => trivial)
    fun result => ?_
  have hook : (Prog.when job.adapter.hasRecord (recordHook result.id)).Uses fun o : Op => o.Fresh ∧ o.points = none :=
    .when (.perform ⟨trivial, rfl⟩)
  refine Contract.Safe.bind ((recording_frame (persistent.and (recorded_persistent _ result)) hook).weaken
    (fun _ _ _ now => now) (fun _ _ _ _ now => now) fun _ _ _ _ _ => trivial) fun _ => ?_
  refine Contract.Safe.bind ((finishCheckpoint_records job c result _ _ _ _).pre ?_) fun _ =>
    Contract.Safe.ret fun _ _ _ _ => trivial
  rintro s - - ⟨⟨stands, run⟩, recorded⟩
  exact ⟨stands, run ▸ recorded⟩

/-- The claim of a checkpoint gives one that stands. -/
theorem claimCheckpoint_records (id run : ObjectId) (token : Token) (now : Timestamp) :
    recording.Safe t (fun _ => True) (claimCheckpoint id run token now)
      (fun claimed s => ∀ c : ClaimedCheckpoint id run, claimed = some c → Stands c.doc s) (fun _ _ => True) := by
  refine Contract.Safe.perform_ok (fun claimed u other s s' ks ks' is is' grows held c here => ?_)
    (keeps_of_post recording_idle (fun _ _ _ _ _ _ answer => nomatch answer) ?_)
  · exact stands_persistent c.doc u s s' ks ks' is is' grows (held c here)
  · intro s i s' known known' inv _ _ posted
    have change := post_change posted
    have pointed : Pointed s' := inv.step (o := .claimCheckpoint id run token now) trivial change fun _ _ points => nomatch points
    refine ⟨pointed, change.grows, ?_, fun _ _ answer => nomatch answer⟩
    intro claimed answer c here
    rw [reply] at answer
    cases answer
    have doc := s.db.claimedCheckpoint_doc id run token now
    rw [here] at doc
    obtain ⟨k, found, same⟩ := Option.map_eq_some_iff.mp doc.symm
    dsimp only at same
    obtain ⟨k', mem', id', run', snapshot'⟩ := change.grows.checkpoints k (List.mem_of_find?_eq_some found)
    rw [← same]
    exact ⟨k', mem', id', run', snapshot'⟩

/-- The replay itself stores nothing. -/
theorem attemptReplay_records (c : SecurityExecutionCheckpoint) :
    recording.Safe t (Working job c) (attemptReplay job c) (fun _ => Working job c) (fun _ _ => True) := by
  have persistent := working_persistent job c
  have frame : ∀ {α : Type} {p : Code α}, p.Uses (PoolOp job c.id false) →
      recording.Safe t (Working job c) p (fun _ => Working job c) (fun _ => Working job c) := fun uses => recording_pool uses
  have done : ∀ {α : Type} (a : α),
      recording.Safe t (Working job c) (Prog.ret a) (fun _ => Working job c) (fun _ => Working job c) :=
    fun _ => Contract.Safe.ret fun _ _ _ now => now
  refine Contract.Safe.handle (E := fun _ => Working job c) ?_ fun e => ?_
  · refine Contract.Safe.bind (frame (anyEventSet_uses (fun _ h => .read h) _)) fun aborting => ?_
    refine Contract.Safe.ite (fun _ => ?_) fun _ => ?_
    · exact Contract.Safe.bind (frame (abandonCheckpoint_uses c)) fun _ => done _
    · refine Contract.Safe.bind (frame (resolveContext_uses c)) fun unresolved => ?_
      cases unresolved with
      | some outcome => exact done _
      | none =>
        refine Contract.Safe.bind ?_ fun evidence => done (Attempt.evidence evidence)
        have started : (startReplay c.id).Uses fun o : Op => o.Fresh ∧ o.points = none := .perform ⟨trivial, rfl⟩
        refine Contract.Safe.bind (recording_frame persistent started) fun _ => ?_
        refine Contract.Safe.bind (frame (Prog.Uses.perform (.read rfl))) fun n => ?_
        exact frame (replayLoop_uses c n)
  · split
    · exact Contract.Safe.bind ((frame (finishBlocked_uses c _)).weaken (fun _ _ _ now => now) (fun _ _ _ _ now => now)
        fun _ _ _ _ _ => trivial) fun _ => Contract.Safe.ret fun _ _ _ now => now
    · exact Contract.Safe.ret fun _ _ _ now => now

theorem executeCheckpoint_records (id : ObjectId) :
    recording.Safe t (fun _ => True) (executeCheckpoint job id) (fun _ _ => True) (fun _ _ => True) := by
  have free : recording.Stable t fun _ => True := Contract.Stable.true (C := recording) t
  refine Contract.Safe.bind (read_frame rfl recording_idle free (fun _ => free) fun _ _ _ _ _ => trivial) fun now => ?_
  refine Contract.Safe.bind (claimCheckpoint_records id job.claimed.run.id job.claimed.token now) fun claimed => ?_
  rcases claimed with _ | ⟨c, rfl, run⟩
  · exact Contract.Safe.ret fun _ _ _ _ => trivial
  · have working : ∀ s : State, (∀ k : ClaimedCheckpoint c.id job.claimed.run.id, some ⟨c, rfl, run⟩ = some k → Stands k.doc s) →
        Working job c s := fun s held => ⟨held _ rfl, run⟩
    have persistent := working_persistent job c
    refine Contract.Safe.bind (((findResult_records (executionKey job.claimed.run.id c.snapshotId) persistent).pre
      fun s _ _ => working s).weaken (fun _ _ _ now => now) (fun _ _ _ _ now => now) fun _ _ _ _ _ => trivial)
      fun existing => ?_
    cases existing with
    | some existing => exact finishFromExisting_records.pre fun s _ _ now => ⟨now.1, now.2 existing rfl⟩
    | none =>
      refine Contract.Safe.pre ?_ fun s _ _ now => now.1
      refine Contract.Safe.bind (read_frame rfl recording_idle (persistent.stable t) (fun _ => free)
        fun _ _ _ _ _ => trivial) fun snapshots => ?_
      have frame : ∀ {α : Type} {p : Code α}, p.Uses (PoolOp job c.id false) →
          recording.Safe t (Working job c) p (fun _ => Working job c) (fun _ _ => True) := fun uses =>
        (recording_pool uses).weaken (fun _ _ _ now => now) (fun _ _ _ _ now => now) fun _ _ _ _ _ => trivial
      split
      · next snapshot rest =>
        refine Contract.Safe.bind (frame (refusePermit_uses c)) fun refusal => ?_
        cases refusal with
        | some reason => exact (frame (finishBlocked_uses c reason)).post fun _ _ _ _ _ => trivial
        | none =>
          refine Contract.Safe.bind (attemptReplay_records job c) fun attempt => ?_
          cases attempt with
          | settled outcome => exact Contract.Safe.ret fun _ _ _ _ => trivial
          | evidence evidence => exact recordFirstRun_records snapshot evidence
      · refine Contract.Safe.bind (frame (finishCheckpoint_uses _ _ _ rfl fun stores => nomatch stores)) fun _ => ?_
        exact Contract.Safe.ret fun _ _ _ _ => trivial

theorem poolThread_records (id : ObjectId) :
    recording.Safe t (fun _ => True) (poolThread job id) (fun _ _ => True) (fun _ _ => True) := by
  have free : recording.Persistent fun _ => True := fun _ _ _ _ _ _ _ _ _ => trivial
  have completed : ∀ exception, (complete exception).Uses fun o : Op => o.Fresh ∧ o.points = none :=
    fun _ => .perform ⟨trivial, rfl⟩
  refine Contract.Safe.bind (Contract.Safe.handle (E := fun _ _ => True) ?_ fun e => ?_) fun exception =>
    recording_frame free (completed exception)
  · exact Contract.Safe.bind (executeCheckpoint_records job id) fun _ => Contract.Safe.ret fun _ _ _ _ => trivial
  · exact Contract.Safe.ret fun _ _ _ _ => trivial

end

/-- Everybody records as the contract says. -/
theorem recording_holds : recording.Holds := by
  have free : recording.Persistent fun _ => True := fun _ _ _ _ _ _ _ _ _ => trivial
  refine holds_of_threads (fun t => free.stable t) (fun u s s' same inv => ?_) fun t d s p s' _ _ _ _ start => ?_
  · refine ⟨fun c mem id stored => ?_, Grows.of_sameStore same⟩
    obtain ⟨r, mem', here⟩ := inv c (same.checkpoints ▸ mem) id stored
    exact ⟨r, same.results ▸ mem', here⟩
  · refine ⟨fun _ => True, free.stable t, trivial, ?_⟩
    have fresh := start.fresh
    cases start with
    | call n r => exact recording_frame free ((Request.code_uses r).mono fun _ h => ⟨h.fresh, h.points⟩)
    | worker w setup => exact recording_frame free ((runOnce_uses setup).mono fun _ h => ⟨h.fresh, h.points⟩)
    | pool w k job slot => exact poolThread_records job slot.checkpoint
    | heartbeat w job => exact recording_frame free ((heartbeatThread_uses job).mono fun _ h => ⟨h.fresh, h.points⟩)

/-! ## Every run -/

/-- What holds of the results in a configuration. -/
structure RecordedOnce (c : Config scheduler) : Prop where
  once : ∀ a ∈ c.state.db.results, ∀ b ∈ c.state.db.results, ∀ key, a.executionKey = some key →
    b.executionKey = some key → a = b
  returned : ∀ (t : Tid) (place : Context Sig SecurityTestResult) (run : SecurityTestRun) (snapshot : RequestSnapshot)
    (value : ExecutionResultInput) (result : SecurityTestResult) (d e : Config scheduler), value.executionKey ≠ "" →
    Call (Guard.free scheduler) t place c (recordExecutionResultInput run snapshot value) d (.ret result) →
    Run (Guard.free scheduler) d e → result ∈ e.state.db.results ∧ result.executionKey = some value.executionKey
  pointed : Pointed c.state

/-- **Recorded once.** In every reachable state there is at most one result for an execution key, every call that
records one from there on returns the one that is stored under its key then and ever after, and every checkpoint
with a result has the one of its run and snapshot. -/
theorem recorded_once (snapshots : List RequestSnapshot) (relations : List ParameterRelation) (c : Config scheduler)
    (reached : Run (Guard.free scheduler) (initial snapshots relations) c) : RecordedOnce c := by
  have known : ∀ e, Run (Guard.free scheduler) (initial snapshots relations) e → recording.known e.state :=
    fun _ run => consistent_of_run run
  have start : recording.Sound (initial snapshots relations) := by
    refine Contract.Sound.initial (fun k mem => ?_) fun _ => trivial
    cases mem
  have sound := Contract.sound recording_holds known start reached
  refine ⟨fun a memA b memB key keyA keyB => ?_, ?_, sound.inv⟩
  · have keys := (consistent_of_run reached).keys
    exact keys.resultKeys a memA b memB (by rw [keyA]; rfl) (keyA.trans keyB.symm)
  · intro t place run snapshot value result d e keyed call later
    have free : recording.Persistent fun _ => True := fun _ _ _ _ _ _ _ _ _ => trivial
    have now := (recordExecutionResultInput_records free run snapshot keyed).returned recording_holds
      (fun e run => known e (reached.trans run)) sound (free.stable t) trivial call
    refine ⟨?_, now.2.2⟩
    have runD : Run (Guard.free scheduler) (initial snapshots relations) d := reached.trans call.run
    exact (storeInvariant (fun s => result ∈ s.db.results) (fun _ _ _ _ _ _ _ _ change here => change.result_kept here)
      (fun _ _ same here => same.results ▸ here) runD later (known d runD) now.2.1).2

/-- A result that a worker recorded is the one of its key. -/
theorem recorded_once_done : ∃ c : Config scheduler, RecordedOnce c ∧
    c.state.db.checkpoints.map (·.resultId) = c.state.db.results.map (some ·.id) ∧ c.state.db.results ≠ [] := by
  let P (c : Config scheduler) : Bool := decide (c.state.db.checkpoints.map (·.resultId) =
    c.state.db.results.map (some ·.id) ∧ c.state.db.results ≠ [])
  obtain ⟨c, reached, found⟩ := Run.exists_of_follow (P := P)
    (show ((initial [getSnapshot] []).follow (Guard.free scheduler) executedUnderCancel).any P = true by decide +kernel)
  exact ⟨c, recorded_once _ _ c reached, of_decide_eq_true found⟩

end ApiManger.Scheduler
