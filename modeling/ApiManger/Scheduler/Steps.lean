import ApiManger.Collection.Keyed
import ApiManger.Scheduler.Footprint

/-!
# What a step can do

The inversion of one operation: what became of the run, the checkpoint or the
result with a given id. Every invariant below is derived from these lemmas.
-/

namespace ApiManger.Scheduler
open Python Store Execution Interleaving Collection

namespace Database

def run? (db : Database) (id : ObjectId) : Option SecurityTestRun := lookup (·.id) db.runs id

def checkpoint? (db : Database) (id : ObjectId) : Option SecurityExecutionCheckpoint :=
  lookup (·.id) db.checkpoints id

def result? (db : Database) (id : ObjectId) : Option SecurityTestResult :=
  lookup (·.id) db.results id

end Database

/-! ## Updates keep what they do not set -/

@[simp] theorem RunWrite.apply_id (r : SecurityTestRun) (w : RunWrite) : (apply r w).id = r.id := by
  cases w <;> try rfl
  case dispatchFailed id token retryable errorType now => cases retryable <;> rfl

@[simp] theorem RunWrite.on_id (w : RunWrite) (r : SecurityTestRun) : (w.on r).id = r.id := by
  unfold on
  split <;> simp

@[simp] theorem CheckpointWrite.apply_id (c : SecurityExecutionCheckpoint) (w : CheckpointWrite) :
    (apply c w).id = c.id := by cases w <;> rfl

@[simp] theorem CheckpointWrite.on_id (w : CheckpointWrite) (c : SecurityExecutionCheckpoint) :
    (w.on c).id = c.id := by
  unfold on
  split <;> simp

@[simp] theorem CheckpointWrite.apply_runId (c : SecurityExecutionCheckpoint) (w : CheckpointWrite) :
    (apply c w).runId = c.runId := by cases w <;> rfl

@[simp] theorem CheckpointWrite.apply_snapshotId (c : SecurityExecutionCheckpoint)
    (w : CheckpointWrite) : (apply c w).snapshotId = c.snapshotId := by cases w <;> rfl

@[simp] theorem CheckpointWrite.on_runId (w : CheckpointWrite) (c : SecurityExecutionCheckpoint) :
    (w.on c).runId = c.runId := by
  unfold on
  split <;> simp

@[simp] theorem CheckpointWrite.on_snapshotId (w : CheckpointWrite)
    (c : SecurityExecutionCheckpoint) : (w.on c).snapshotId = c.snapshotId := by
  unfold on
  split <;> simp

/-! ## One operation -/

variable {t : Tid} {o : Op} {i : Input} {s s' : State}

/-- An operation is lost on the way, or does its work; then its answer may be lost. -/
theorem exec_cases {r : Except PyError (Ret o)}
    (h : exec t o i s = some (r, s')) :
    (o.isStore = true ∧ i.fault = some .before ∧ r = .error driverError ∧ s' = s) ∨
    (post t i s o = some s' ∧ (r = reply t i s o ∨ o.isStore = true ∧ r = .error driverError) ∧
      (o.isStore = true → i.fault ≠ some .before)) := by
  unfold exec at h
  split at h
  · rename_i store fault
    cases h
    exact .inl ⟨store, fault, rfl, rfl⟩
  · rename_i store fault
    obtain ⟨s'', done, h⟩ := Option.map_eq_some_iff.mp h
    cases h
    exact .inr ⟨done, .inr ⟨store, rfl⟩, fun _ => by rw [fault]; nofun⟩
  · rename_i here _
    obtain ⟨s'', done, h⟩ := Option.map_eq_some_iff.mp h
    cases h
    exact .inr ⟨done, .inl rfl, fun store fault => here store fault⟩

theorem post_read (read : o.isRead = true)
    (h : post t i s o = some s') : s' = s := by
  cases o <;> simp only [Op.isRead, Bool.false_eq_true] at read <;> simp_all [post]

/-- What an operation does to the memory of a dispatch. -/
inductive MemoryChange : Op → (Dispatch → Dispatch) → Prop
  | start (job : Job) : MemoryChange (.startExecution job) fun d =>
      { d with job := some job, hosts := restoreHosts job.claimed.run.hostState }
  | set (e : Event) : MemoryChange (.set e) fun d => { d with events := e :: d.events }
  | noteAuthFailure (errorType : String) : MemoryChange (.noteAuthFailure errorType) fun d =>
      { d with authFailure := d.authFailure.or (some errorType) }
  | submit (c : ObjectId) : MemoryChange (.submit c) fun d =>
      { d with slots := d.slots ++ [{ checkpoint := c }] }
  | collect : MemoryChange .collectDone Dispatch.collect
  | closeHeartbeat : MemoryChange .closeHeartbeat fun d => { d with heartbeatClosed := true }
  | acquire (host : String) : MemoryChange (.acquire host) fun d =>
      { d with hosts := putHostState d.hosts (hostStateOf d.hosts (hostKey host)) }
  | recordOutcome (host : String) (evidence : Dict) :
      MemoryChange (.recordOutcome host evidence) fun d => { d with
        hosts := match recordHostOutcome d.policy d.hosts host evidence with
          | .ok hosts => hosts
          | .error _ => putHostState d.hosts (hostStateOf d.hosts (hostKey host)) }

/-- What an operation does to the state. -/
inductive Change (t : Tid) (i : Input) (s : State) : Op → State → Prop
  | nothing (o : Op) (other : ∀ c, o ≠ .upsertCheckpoint c) : Change t i s o s
  | present (c d : SecurityExecutionCheckpoint) (mem : d ∈ s.db.checkpoints)
      (sameRun : d.runId = c.runId) (sameSnapshot : d.snapshotId = c.snapshotId) :
      Change t i s (.upsertCheckpoint c) s
  | token : Change t i s .uuid4 { s with nextToken := s.nextToken + 1 }
  | insertRun (r : SecurityTestRun)
      (free : r.idempotencyKey.isSome = true → ∀ q ∈ s.db.runs, q.idempotencyKey ≠ r.idempotencyKey) :
      Change t i s (.insertRun r) { s with db := { s.db with
        runs := s.db.runs ++ [{ r with id := s.db.nextId }], nextId := s.db.nextId + 1 } }
  | claimRun (worker queue : String) (now expires : Timestamp) (r : SecurityTestRun)
      (first : s.db.firstClaimable queue i.chosen = some r) :
      Change t i s (.claimRun worker queue now expires) { s with
        db := { s.db with runs := s.db.runs.map fun q =>
          if q.id = r.id then claimUpdate r worker s.nextToken now expires else q }
        nextToken := s.nextToken + 1
        workers := s.giveRun t (newClaim r worker s.nextToken now expires) }
  | updateRun (w : RunWrite) : Change t i s (.updateRun w) { s with db := s.db.updateRun w }
  | upsertCheckpoint (c : SecurityExecutionCheckpoint)
      (free : ∀ d ∈ s.db.checkpoints, d.runId = c.runId → d.snapshotId ≠ c.snapshotId) :
      Change t i s (.upsertCheckpoint c) { s with db := { s.db with
        checkpoints := s.db.checkpoints ++ [{ c with id := s.db.nextId }]
        nextId := s.db.nextId + 1 } }
  | claimCheckpoint (id run : ObjectId) (token : Token) (now : Timestamp) :
      Change t i s (.claimCheckpoint id run token now) { s with db := { s.db with
        checkpoints := s.db.checkpoints.map fun c =>
          if Database.openCheckpoint id run c then claimCheckpointUpdate c token now else c } }
  | updateCheckpoints (w : CheckpointWrite) :
      Change t i s (.updateCheckpoints w) { s with db := s.db.updateCheckpoints w }
  | insertResult (r : SecurityTestResult)
      (free : r.executionKey.isSome = true → ∀ q ∈ s.db.results, q.executionKey ≠ r.executionKey) :
      Change t i s (.insertResult r) { s with db := { s.db with
        results := s.db.results ++ [{ r with id := s.db.nextId }], nextId := s.db.nextId + 1 } }
  | relations (w : RelationSync) : Change t i s (.syncRelations w)
      { s with db := { s.db with relations := s.db.relations.map w.on } }
  | memory (o : Op) (w : Nat) (f : Dispatch → Dispatch) (own : t.dispatch? = some w)
      (change : MemoryChange o f) :
      Change t i s o { s with workers := Function.update s.workers w (f (s.workers w)) }
  | complete (w k : Nat) (exception : Option PyError) (own : t = .pool w k) :
      Change t i s (.complete exception) { s with
        workers := Function.update s.workers w ((s.workers w).setSlot k (.finished exception)) }
  | startReplay (w k : Nat) (c : ObjectId) (own : t = .pool w k) :
      Change t i s (.startReplay c) { s with replays := s.replays ++ [⟨w, k, c⟩] }
  | recordHook (result : ObjectId) :
      Change t i s (.recordHook result) { s with recorded := s.recorded ++ [result] }

theorem onDispatch_change {f : Dispatch → Dispatch}
    (change : MemoryChange o f) (h : s.onDispatch t f = some s') : Change t i s o s' := by
  obtain ⟨w, own, rfl⟩ := Option.map_eq_some_iff.mp h
  exact .memory o w f own change

/-- The inversion of one operation that was not lost. -/
theorem post_change (h : post t i s o = some s') :
    Change t i s o s' := by
  cases o with
  | insertRun r =>
    simp only [post] at h
    split at h <;> cases h
    · exact .nothing _ fun _ e => by cases e
    · rename_i free
      refine .insertRun r fun keyed q mem same => free ?_
      simp only [keyed, List.any_eq_true, beq_iff_eq, Bool.true_and]
      exact ⟨q, mem, same⟩
  | claimRun worker queue now expires =>
    simp only [post] at h
    split at h
    · rename_i r first
      cases h
      exact .claimRun worker queue now expires r first
    · split at h <;> cases h
      exact .nothing _ fun _ e => by cases e
  | upsertCheckpoint c =>
    simp only [post] at h
    split at h <;> cases h
    · rename_i found
      simp only [List.any_eq_true, Bool.and_eq_true, beq_iff_eq] at found
      obtain ⟨d, mem, sameRun, sameSnapshot⟩ := found
      exact .present c d mem sameRun sameSnapshot
    · rename_i free
      refine .upsertCheckpoint c fun d mem sameRun sameSnapshot => free ?_
      simp only [List.any_eq_true, Bool.and_eq_true, beq_iff_eq]
      exact ⟨d, mem, sameRun, sameSnapshot⟩
  | insertResult r =>
    simp only [post] at h
    split at h <;> cases h
    · exact .nothing _ fun _ e => by cases e
    · rename_i free
      refine .insertResult r fun keyed q mem same => free ?_
      simp only [keyed, List.any_eq_true, beq_iff_eq, Bool.true_and]
      exact ⟨q, mem, same⟩
  | joinFutures => simp only [post] at h; split at h <;> cases h; exact .nothing _ fun _ e => by cases e
  | complete e => cases t <;> cases h; exact .complete _ _ e rfl
  | startReplay c => cases t <;> cases h; exact .startReplay _ _ c rfl
  | recordHook r =>
    simp only [post] at h
    split at h <;> cases h
    · exact .recordHook r
    · exact .nothing _ fun _ e => by cases e
  | acquire host =>
    simp only [post] at h
    split at h
    · cases h
    · exact onDispatch_change (.acquire host) h
  | recordOutcome host evidence =>
    simp only [post] at h
    exact onDispatch_change (.recordOutcome host evidence) h
  | startExecution job => exact onDispatch_change (.start job) h
  | set e => exact onDispatch_change (.set e) h
  | noteAuthFailure errorType => exact onDispatch_change (.noteAuthFailure errorType) h
  | submit c => exact onDispatch_change (.submit c) h
  | collectDone => exact onDispatch_change .collect h
  | closeHeartbeat => exact onDispatch_change .closeHeartbeat h
  | hang => cases h
  | uuid4 => cases h; exact .token
  | updateRun w => cases h; exact .updateRun w
  | claimCheckpoint id run token now => cases h; exact .claimCheckpoint id run token now
  | updateCheckpoints w => cases h; exact .updateCheckpoints w
  | syncRelations w => cases h; exact .relations w
  | _ => cases h; exact .nothing _ fun _ e => by cases e

/-! ## Where a document comes from -/

theorem Database.firstClaimable_mem {db : Database} {queue : String} {chosen : ObjectId}
    {r : SecurityTestRun} (h : db.firstClaimable queue chosen = some r) :
    r ∈ db.runs ∧ r.schedulerManaged = true ∧ r.queueName = queue ∧ r.status = .queued := by
  have mem := List.mem_of_find?_eq_some h
  simp only [claimable, List.mem_filter, Bool.and_eq_true, beq_iff_eq] at mem
  obtain ⟨mem, ⟨managed, queued⟩, status⟩ := mem
  exact ⟨mem, managed, queued, status⟩

/-- Where a run found after an operation comes from. -/
inductive RunOrigin (s : State) (o : Op) (r' : SecurityTestRun) : Prop
  | kept (mem : r' ∈ s.db.runs)
  | inserted (r : SecurityTestRun) (op : o = .insertRun r) (eq : r' = { r with id := s.db.nextId })
      (free : r.idempotencyKey.isSome = true → ∀ q ∈ s.db.runs, q.idempotencyKey ≠ r.idempotencyKey)
  | claimed (worker queue : String) (now expires : Timestamp) (r : SecurityTestRun)
      (op : o = .claimRun worker queue now expires) (mem : r ∈ s.db.runs)
      (managed : r.schedulerManaged = true) (queued : r.status = .queued)
      (eq : r' = claimUpdate r worker s.nextToken now expires)
  | updated (w : RunWrite) (r : SecurityTestRun) (op : o = .updateRun w) (mem : r ∈ s.db.runs)
      (target : r.id = w.target) (guard : RunWrite.guard r w = true) (eq : r' = RunWrite.apply r w)

theorem Change.run_origin (h : Change t i s o s')
    {r' : SecurityTestRun} (mem : r' ∈ s'.db.runs) : RunOrigin s o r' := by
  cases h with
  | insertRun r free =>
    rcases List.mem_append.mp mem with old | new
    · exact .kept old
    · exact .inserted r rfl (List.mem_singleton.mp new) free
  | claimRun worker queue now expires r first =>
    obtain ⟨here, managed, _, queued⟩ := Database.firstClaimable_mem first
    obtain ⟨q, old, rfl⟩ := List.mem_map.mp mem
    split
    · exact .claimed worker queue now expires r rfl here managed queued rfl
    · exact .kept old
  | updateRun w =>
    obtain ⟨q, old, rfl⟩ := List.mem_map.mp mem
    unfold RunWrite.on
    split
    · rename_i hit
      exact .updated w q rfl old hit.1 hit.2 rfl
    · exact .kept old
  | _ => exact .kept mem

/-- Where a checkpoint found after an operation comes from. -/
inductive CheckpointOrigin (s : State) (o : Op) (c' : SecurityExecutionCheckpoint) : Prop
  | kept (mem : c' ∈ s.db.checkpoints)
  | inserted (c : SecurityExecutionCheckpoint) (op : o = .upsertCheckpoint c)
      (eq : c' = { c with id := s.db.nextId })
      (free : ∀ d ∈ s.db.checkpoints, d.runId = c.runId → d.snapshotId ≠ c.snapshotId)
  | claimed (id run : ObjectId) (token : Token) (now : Timestamp) (c : SecurityExecutionCheckpoint)
      (op : o = .claimCheckpoint id run token now) (mem : c ∈ s.db.checkpoints) (isId : c.id = id)
      (ofRun : c.runId = run) (pending : c.status = .pending)
      (eq : c' = claimCheckpointUpdate c token now)
  | updated (w : CheckpointWrite) (c : SecurityExecutionCheckpoint) (op : o = .updateCheckpoints w)
      (mem : c ∈ s.db.checkpoints) (guard : CheckpointWrite.guard c w = true)
      (eq : c' = CheckpointWrite.apply c w)

theorem Change.checkpoint_origin
    (h : Change t i s o s') {c' : SecurityExecutionCheckpoint} (mem : c' ∈ s'.db.checkpoints) :
    CheckpointOrigin s o c' := by
  cases h with
  | upsertCheckpoint c free =>
    rcases List.mem_append.mp mem with old | new
    · exact .kept old
    · exact .inserted c rfl (List.mem_singleton.mp new) free
  | claimCheckpoint id run token now =>
    obtain ⟨q, old, rfl⟩ := List.mem_map.mp mem
    split
    · rename_i hit
      simp only [Database.openCheckpoint, Bool.and_eq_true, beq_iff_eq] at hit
      exact .claimed id run token now q rfl old hit.1.1 hit.1.2 hit.2 rfl
    · exact .kept old
  | updateCheckpoints w =>
    obtain ⟨q, old, rfl⟩ := List.mem_map.mp mem
    unfold CheckpointWrite.on
    split
    · rename_i hit
      exact .updated w q rfl old hit rfl
    · exact .kept old
  | _ => exact .kept mem

/-- Results are never changed or removed. -/
theorem Change.result_kept (h : Change t i s o s')
    {r : SecurityTestResult} (mem : r ∈ s.db.results) : r ∈ s'.db.results := by
  cases h with
  | insertResult r free => exact List.mem_append_left _ mem
  | _ => exact mem

/-! ## What becomes of the memories -/

section
variable {t : Tid} {i : Input} {s s' : State} {o : Op}

/-- Only a claim gives a dispatch its run. -/
theorem Change.claimed_eq (h : Change t i s o s')
    (other : ∀ worker queue now expires, o ≠ .claimRun worker queue now expires) (w : Nat) :
    (s'.workers w).claimed = (s.workers w).claimed := by
  cases h with
  | claimRun worker queue now expires => exact (other worker queue now expires rfl).elim
  | memory o v f own change =>
    by_cases here : w = v
    · subst here
      simp only [Function.update_self]
      cases change <;> rfl
    · simp only [Function.update_of_ne here]
  | complete v k exception own =>
    by_cases here : w = v
    · subst here
      simp only [Function.update_self]
      rfl
    · simp only [Function.update_of_ne here]
  | _ => rfl

/-- Only a start gives a dispatch its job. -/
theorem Change.job_eq (h : Change t i s o s') (other : ∀ job, o ≠ .startExecution job) (w : Nat) :
    (s'.workers w).job = (s.workers w).job := by
  cases h with
  | claimRun worker queue now expires =>
    dsimp only [State.giveRun]
    split <;> rfl
  | memory o v f own change =>
    by_cases here : w = v
    · subst here
      simp only [Function.update_self]
      cases change with
      | start job => exact (other job rfl).elim
      | _ => rfl
    · simp only [Function.update_of_ne here]
  | complete v k exception own =>
    by_cases here : w = v
    · subst here
      simp only [Function.update_self]
      rfl
    · simp only [Function.update_of_ne here]
  | _ => rfl

end

/-! ## How a thread starts -/

/-- The code a thread starts with, and the state it starts in. -/
inductive Started (s : State) : Tid → Decision → Code Unit → State → Prop
  | call (n : Nat) (r : Request) : Started s (.call n) (.request r) r.code s
  | worker (w : Nat) (setup : WorkerSetup) : Started s (.worker w) (.worker setup) (runOnce setup) s
  | pool (w k : Nat) (job : Job) (slot : Slot) (hasJob : (s.workers w).job = some job)
      (hasSlot : (s.workers w).slots[k]? = some slot) (submitted : slot.state = .submitted) :
      Started s (.pool w k) .spawn (poolThread job slot.checkpoint) { s with
        workers := Function.update s.workers w ((s.workers w).setSlot k .running) }
  | heartbeat (w : Nat) (job : Job) (hasJob : (s.workers w).job = some job) :
      Started s (.heartbeat w) .spawn (heartbeatThread job) s

/-- The inversion of a start. -/
theorem startThread_cases {d : Decision} {p : Code Unit}
    (h : startThread t d s = some (p, s')) : Started s t d p s' := by
  cases t with
  | call n => cases d <;> cases h; exact .call n _
  | worker w => cases d <;> cases h; exact .worker w _
  | pool w k =>
    cases d <;> try cases h
    simp only [startThread] at h
    split at h
    · rename_i job slot hasJob hasSlot
      split at h
      · rename_i submitted
        cases h
        exact .pool w k job slot hasJob hasSlot submitted
      · cases h
    · cases h
  | heartbeat w =>
    cases d <;> try cases h
    obtain ⟨job, hasJob, h⟩ := Option.map_eq_some_iff.mp h
    cases h
    exact .heartbeat w job hasJob

end ApiManger.Scheduler
