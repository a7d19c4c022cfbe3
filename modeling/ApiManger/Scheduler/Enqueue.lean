import Mathlib.Data.List.Perm.Subperm
import ApiManger.Scheduler.Rely

/-!
# Idempotent enqueue

However many enqueue calls carry one idempotency key, in whatever order they list the
snapshots and wherever they crash, there is one run for the key, and once it is no
longer preparing it has one checkpoint for each of its snapshots. The ordinals are
those of the call that reached a checkpoint first, so two calls with different orders
may give one ordinal to two checkpoints.
-/

namespace ApiManger.Scheduler
open Python Store Execution Interleaving Collection

/-- The key `enqueue_snapshot_batch` uses. -/
def EnqueueRequest.key (q : EnqueueRequest) (ids : List ObjectId) : IdempotencyKey :=
  q.idempotencyKey.getD (buildIdempotencyKey q.context ids q.checkType q.policy)

/-- An enqueue of the snapshots `batch` has for its key; no cancel and no retry. -/
def carries (batch : IdempotencyKey → List ObjectId) : Request → Bool
  | .enqueue q => match normalizeSnapshotIds q.snapshotIds with
    | .ok ids => sameSnapshots ids (batch (q.key ids))
    | .error _ => true
  | .cancel .. | .retry .. => false
  | .resume _ | .resumeAuth .. | .createRun .. | .recover .. => true

/-- Whether the snapshots an operation reads have distinct ids. -/
def readsDistinct (s : State) : Op → Bool
  | .findSnapshots _ => decide (s.db.snapshots.map (·.id)).Nodup
  | _ => true

/-- All enqueues with one key carry the same set of snapshots. -/
def enqueueing (batch : IdempotencyKey → List ObjectId) : Guard scheduler where
  start _ d _ := match d with
    | .request r => carries batch r
    | _ => true
  op _ o _ s := readsDistinct s o

/-- Whether an upsert would insert a checkpoint at an ordinal another one of its run has. -/
def takesPlace (s : State) : Op → Bool
  | .upsertCheckpoint c =>
    (s.db.checkpoints.all fun d => d.runId != c.runId || d.snapshotId != c.snapshotId) &&
      s.db.checkpoints.any fun d => d.runId == c.runId && d.ordinal == c.ordinal
  | _ => false

/-- Whether recovery would fail a preparing run. -/
def failsPreparing (s : State) : Op → Bool
  | .updateRun (.preparingFailed id _) => s.db.runs.any fun r => r.id == id && r.status == .preparing
  | _ => false

/-- Every checkpoint is inserted at a free ordinal, and no preparing run has lost its snapshots. -/
def inPlace : Guard scheduler where
  start _ _ _ := true
  op _ o _ s := !takesPlace s o && !failsPreparing s o

/-- One run for the key; once it is no longer preparing it has one checkpoint for each snapshot,
with the ordinals from 0 on. -/
structure EnqueuedOnce (key : IdempotencyKey) (s : State) : Prop where
  one : (s.db.runs.filter fun r => r.idempotencyKey == some key).length ≤ 1
  ready : ∀ r ∈ s.db.runs, r.idempotencyKey = some key → r.status ≠ .preparing →
    ((s.db.checkpoints.filter (·.runId == r.id)).map (·.snapshotId)).Perm r.snapshotIds ∧
    ((s.db.checkpoints.filter (·.runId == r.id)).map (·.ordinal)).Perm (List.range r.snapshotIds.length)

/-! ## What every step keeps -/

/-- `r'` is a later state of the run `r`, which never goes back to preparing. -/
structure LaterRun (r r' : SecurityTestRun) : Prop where
  id : r'.id = r.id
  key : r'.idempotencyKey = r.idempotencyKey
  snapshots : r'.snapshotIds = r.snapshotIds
  prepared : r'.status = .preparing → r.status = .preparing

theorem LaterRun.refl (r : SecurityTestRun) : LaterRun r r := ⟨rfl, rfl, rfl, fun h => h⟩

theorem RunWrite.apply_later (r : SecurityTestRun) (w : RunWrite) : LaterRun r (apply r w) := by
  refine ⟨apply_id r w, ?_, (apply_same r w).snapshots, ?_⟩
  · cases w with
    | dispatchFailed id token retryable errorType now => cases retryable <;> rfl
    | _ => rfl
  · cases w with
    | dispatchFailed id token retryable errorType now => cases retryable <;> exact nofun
    | finish id token cancelled hosts now => cases cancelled <;> exact nofun
    | heartbeat | refreshCounts | authReady | syncCounts => exact id
    | _ => exact nofun

/-- `c'` is a later state of the checkpoint `c`. -/
structure LaterCheckpoint (c c' : SecurityExecutionCheckpoint) : Prop where
  run : c'.runId = c.runId
  snapshot : c'.snapshotId = c.snapshotId
  ordinal : c'.ordinal = c.ordinal

theorem CheckpointWrite.apply_later (c : SecurityExecutionCheckpoint) (w : CheckpointWrite) :
    LaterCheckpoint c (apply c w) := by cases w <;> exact ⟨rfl, rfl, rfl⟩

/-- Runs and checkpoints only ever go on. -/
structure GoesOn (s s' : State) : Prop where
  runs : ∀ r ∈ s.db.runs, ∃ r' ∈ s'.db.runs, LaterRun r r'
  checkpoints : ∀ c ∈ s.db.checkpoints, ∃ c' ∈ s'.db.checkpoints, LaterCheckpoint c c'

variable {s : State} {ids : List ObjectId} {found : List RequestSnapshot}

theorem GoesOn.of_same {s' : State} (runs : s'.db.runs = s.db.runs)
    (checkpoints : s'.db.checkpoints = s.db.checkpoints) : GoesOn s s' := by
  refine ⟨fun r mem => ⟨r, runs ▸ mem, .refl r⟩, fun c mem => ⟨c, checkpoints ▸ mem, rfl, rfl, rfl⟩⟩

theorem Change.goesOn {t : Tid} {i : Input} {s' : State} {o : Op} (keys : Keys s)
    (h : Change t i s o s') : GoesOn s s' where
  runs r mem := by
    cases h.run_next keys mem with
    | kept mem' => exact ⟨r, mem', .refl r⟩
    | claimed worker queue now expires op managed queued mem' => exact ⟨_, mem', rfl, rfl, rfl, nofun⟩
    | updated w op target guard mem' => exact ⟨_, mem', RunWrite.apply_later r w⟩
  checkpoints c mem := by
    cases h.checkpoint_next mem with
    | kept mem' => exact ⟨c, mem', rfl, rfl, rfl⟩
    | claimed id run token now op isId ofRun pending mem' => exact ⟨_, mem', rfl, rfl, rfl⟩
    | updated w op guard mem' => exact ⟨_, mem', CheckpointWrite.apply_later c w⟩

theorem Change.run_before {t : Tid} {i : Input} {s' : State} {o : Op} (h : Change t i s o s')
    {r' : SecurityTestRun} (mem : r' ∈ s'.db.runs) :
    (∃ r ∈ s.db.runs, LaterRun r r' ∧ (r.status = .preparing → r' = r ∨
      ∃ w, o = .updateRun w ∧ r.id = w.target ∧ RunWrite.guard r w = true ∧ r' = RunWrite.apply r w)) ∨
    ∃ r, o = .insertRun r ∧ r' = { r with id := s.db.nextId } ∧
      (r.idempotencyKey.isSome = true → ∀ q ∈ s.db.runs, q.idempotencyKey ≠ r.idempotencyKey) := by
  cases h.run_origin mem with
  | kept mem => exact .inl ⟨r', mem, .refl r', fun _ => .inl rfl⟩
  | inserted r op eq free => exact .inr ⟨r, op, eq, free⟩
  | claimed worker queue now expires r op here managed queued eq =>
    subst eq
    exact .inl ⟨r, here, ⟨rfl, rfl, rfl, nofun⟩, fun preparing => by simp [queued] at preparing⟩
  | updated w r op here target guard eq =>
    subst eq
    exact .inl ⟨r, here, RunWrite.apply_later r w, fun _ => .inr ⟨w, op, target, guard, rfl⟩⟩

theorem Change.checkpoint_before {t : Tid} {i : Input} {s' : State} {o : Op} (h : Change t i s o s')
    {c' : SecurityExecutionCheckpoint} (mem : c' ∈ s'.db.checkpoints) :
    (∃ c ∈ s.db.checkpoints, LaterCheckpoint c c' ∧ c'.id = c.id) ∨
    ∃ c, o = .upsertCheckpoint c ∧ c' = { c with id := s.db.nextId } := by
  cases h.checkpoint_origin mem with
  | kept mem => exact .inl ⟨c', mem, ⟨rfl, rfl, rfl⟩, rfl⟩
  | inserted c op eq => exact .inr ⟨c, op, eq⟩
  | claimed id run token now c op here isId ofRun pending eq =>
    subst eq
    exact .inl ⟨c, here, ⟨rfl, rfl, rfl⟩, rfl⟩
  | updated w c op here guard eq =>
    subst eq
    exact .inl ⟨c, here, CheckpointWrite.apply_later c w, CheckpointWrite.apply_id c w⟩

/-! ## The invariant -/

/-- A checkpoint of the run for the snapshot. -/
def Present (run x : ObjectId) (s : State) : Prop :=
  ∃ c ∈ s.db.checkpoints, c.runId = run ∧ c.snapshotId = x

/-- The runs that have a key, with the checkpoints they have so far. -/
structure Enqueued (batch : IdempotencyKey → List ObjectId) (s : State) : Prop where
  runKeys : ∀ r ∈ s.db.runs, ∀ q ∈ s.db.runs, r.idempotencyKey.isSome = true →
    r.idempotencyKey = q.idempotencyKey → r = q
  owned : ∀ c ∈ s.db.checkpoints, ∃ r ∈ s.db.runs, r.id = c.runId
  asked : ∀ r ∈ s.db.runs, ∀ key, r.idempotencyKey = some key →
    r.snapshotIds.Nodup ∧ sameSnapshots r.snapshotIds (batch key) = true
  within : ∀ r ∈ s.db.runs, r.idempotencyKey.isSome = true → ∀ c ∈ s.db.checkpoints, c.runId = r.id →
    c.snapshotId ∈ r.snapshotIds ∧ c.ordinal < r.snapshotIds.length
  places : Distinct (fun c => (c.runId, c.ordinal)) s.db.checkpoints
  filled : ∀ r ∈ s.db.runs, r.idempotencyKey.isSome = true → r.status ≠ .preparing →
    ∀ x ∈ r.snapshotIds, Present r.id x s

/-- The run exists; where it has a key, its snapshots are these. -/
def Filling (run : ObjectId) (ids : List ObjectId) (s : State) : Prop :=
  ∃ r ∈ s.db.runs, r.id = run ∧ (r.idempotencyKey.isSome = true →
    (∀ x, x ∈ r.snapshotIds ↔ x ∈ ids) ∧ r.snapshotIds.length = ids.length)

theorem Present.goesOn {run x : ObjectId} {s s' : State} (goesOn : GoesOn s s')
    (h : Present run x s) : Present run x s' := by
  obtain ⟨c, mem, ofRun, ofSnapshot⟩ := h
  obtain ⟨c', mem', later⟩ := goesOn.checkpoints c mem
  exact ⟨c', mem', later.run.trans ofRun, later.snapshot.trans ofSnapshot⟩

theorem Filling.goesOn {run : ObjectId} {ids : List ObjectId} {s s' : State} (goesOn : GoesOn s s')
    (h : Filling run ids s) : Filling run ids s' := by
  obtain ⟨r, mem, isRun, same⟩ := h
  obtain ⟨r', mem', later⟩ := goesOn.runs r mem
  refine ⟨r', mem', later.id.trans isRun, fun keyed => ?_⟩
  rw [later.snapshots]
  exact same (later.key ▸ keyed)

/-- The run a checkpoint is filled in for is the one with that id. -/
theorem Filling.of_mem {run : ObjectId} (keys : Keys s)
    (h : Filling run ids s) {r : SecurityTestRun} (mem : r ∈ s.db.runs) (isRun : r.id = run)
    (keyed : r.idempotencyKey.isSome = true) :
    (∀ x, x ∈ r.snapshotIds ↔ x ∈ ids) ∧ r.snapshotIds.length = ids.length := by
  obtain ⟨q, memQ, isRun', same⟩ := h
  obtain rfl := keys.runIds.eq_of_key memQ mem (isRun'.trans isRun.symm)
  exact same keyed

section
variable {batch : IdempotencyKey → List ObjectId} {t : Tid} {i : Input} {s s' : State} {o : Op}

/-- What is inserted fits the run it is for, and a run is only queued when its checkpoints exist. -/
structure Fits (batch : IdempotencyKey → List ObjectId) (s : State) (o : Op) : Prop where
  inserts : ∀ r, o = .insertRun r → ∀ key, r.idempotencyKey = some key → r.status = .preparing ∧
    r.snapshotIds.Nodup ∧ sameSnapshots r.snapshotIds (batch key) = true
  fills : ∀ c, o = .upsertCheckpoint c → ∃ ids, Filling c.runId ids s ∧ c.snapshotId ∈ ids ∧
    c.ordinal < ids.length
  places : takesPlace s o = false
  queues : ∀ w, o = .updateRun w → ∀ r ∈ s.db.runs, r.id = w.target → RunWrite.guard r w = true →
    r.idempotencyKey.isSome = true → r.status = .preparing →
    (RunWrite.apply r w).status ≠ .preparing → ∀ x ∈ r.snapshotIds, Present r.id x s

theorem takesPlace_free {c : SecurityExecutionCheckpoint} (free : takesPlace s (.upsertCheckpoint c) = false)
    (new : ∀ d ∈ s.db.checkpoints, d.runId = c.runId → d.snapshotId ≠ c.snapshotId)
    {d : SecurityExecutionCheckpoint} (mem : d ∈ s.db.checkpoints) (ofRun : d.runId = c.runId) :
    d.ordinal ≠ c.ordinal := by
  intro same
  have absent : (s.db.checkpoints.all fun d => d.runId != c.runId || d.snapshotId != c.snapshotId) = true := by
    refine List.all_eq_true.mpr fun e memE => ?_
    by_cases own : e.runId = c.runId
    · simp [new e memE own]
    · simp [own]
  rw [takesPlace, absent, Bool.true_and, List.any_eq_false] at free
  exact free d mem (by simp [ofRun, same])

theorem Enqueued.step (h : Enqueued batch s) (keys : Keys s) (keys' : Keys s') (fits : Fits batch s o)
    (change : Change t i s o s') : Enqueued batch s' where
  runKeys r' memR q' memQ keyed same := by
    rcases change.run_before memR with ⟨r, oldR, laterR, _⟩ | ⟨r, op, rfl, free⟩ <;>
      rcases change.run_before memQ with ⟨q, oldQ, laterQ, _⟩ | ⟨q, op', rfl, free'⟩
    · rw [laterR.key] at keyed same
      have eq : r = q := h.runKeys r oldR q oldQ keyed (same.trans laterQ.key)
      exact keys'.runIds.eq_of_key memR memQ (laterR.id.trans (eq ▸ laterQ.id.symm))
    · rw [laterR.key] at keyed same
      have same : r.idempotencyKey = q.idempotencyKey := same
      exact absurd same (free' (same ▸ keyed) r oldR)
    · rw [laterQ.key] at same
      exact absurd same.symm (free keyed q oldQ)
    · rw [op] at op'
      cases op'
      rfl
  owned c' mem := by
    rcases change.checkpoint_before mem with ⟨c, old, later, _⟩ | ⟨c, op, rfl⟩
    · obtain ⟨r, memR, isRun⟩ := h.owned c old
      obtain ⟨r', memR', laterR⟩ := (change.goesOn keys).runs r memR
      exact ⟨r', memR', laterR.id.trans (isRun.trans later.run.symm)⟩
    · obtain ⟨ids, filling, _⟩ := fits.fills c op
      obtain ⟨r', mem', isRun, _⟩ := filling.goesOn (change.goesOn keys)
      exact ⟨r', mem', isRun⟩
  asked r' mem key keyed := by
    rcases change.run_before mem with ⟨r, old, later, _⟩ | ⟨r, op, rfl, _⟩
    · rw [later.snapshots]
      exact h.asked r old key (later.key ▸ keyed)
    · exact (fits.inserts r op key keyed).2
  within r' memR keyed c' memC ofRun := by
    rcases change.run_before memR with ⟨r, oldR, laterR, _⟩ | ⟨r, op, rfl, _⟩
    · rw [laterR.key] at keyed
      rw [laterR.id] at ofRun
      rw [laterR.snapshots]
      rcases change.checkpoint_before memC with ⟨c, oldC, laterC, _⟩ | ⟨c, op, rfl⟩
      · rw [laterC.snapshot, laterC.ordinal]
        exact h.within r oldR keyed c oldC (laterC.run ▸ ofRun)
      · obtain ⟨ids, filling, inIds, below⟩ := fits.fills c op
        obtain ⟨same, length⟩ := filling.of_mem keys oldR ofRun.symm keyed
        exact ⟨(same _).mpr inIds, length ▸ below⟩
    · -- nothing belongs to a run that is only now inserted
      rcases change.checkpoint_before memC with ⟨c, oldC, laterC, _⟩ | ⟨c, op', rfl⟩
      · obtain ⟨q, memQ, isRun⟩ := h.owned c oldC
        have below : q.id < s.db.nextId := keys.runBound q memQ
        have ofRun : c'.runId = s.db.nextId := ofRun
        rw [isRun, ← laterC.run, ofRun] at below
        exact absurd below (lt_irrefl _)
      · rw [op] at op'
        cases op'
  places := by
    cases change with
    | upsertCheckpoint c free =>
      refine h.places.append fun d mem same => ?_
      exact takesPlace_free fits.places free mem (Prod.mk.inj same).1 (Prod.mk.inj same).2
    | claimCheckpoint id run token now =>
      exact h.places.map (claimCheckpointUpdate_keeps _ fun _ => rfl)
    | updateCheckpoints w =>
      refine h.places.map fun c => ?_
      unfold CheckpointWrite.on
      split
      · have later := CheckpointWrite.apply_later c w
        rw [later.run, later.ordinal]
      · rfl
    | _ => exact h.places
  filled r' mem keyed queued x inBatch := by
    rcases change.run_before mem with ⟨r, old, later, how⟩ | ⟨r, op, rfl, _⟩
    · rw [later.snapshots] at inBatch
      rw [later.key] at keyed
      rw [later.id]
      refine Present.goesOn (change.goesOn keys) ?_
      by_cases preparing : r.status = .preparing
      · rcases how preparing with rfl | ⟨w, op, target, guard, rfl⟩
        · exact absurd preparing queued
        · exact fits.queues w op r old target guard keyed preparing queued x inBatch
      · exact h.filled r old keyed preparing x inBatch
    · obtain ⟨key, keyed⟩ := Option.isSome_iff_exists.mp keyed
      exact absurd (fits.inserts r op key keyed).1 queued

/-- The operations that neither insert a run with a key nor move a preparing run. -/
def Op.Neutral : Op → Prop
  | .insertRun r => r.idempotencyKey = none
  | .upsertCheckpoint _ | .updateRun (.enqueueQueued ..) | .updateRun (.preparingQueued ..)
  | .updateRun (.preparingFailed ..) | .updateRun (.finalizeCancelled ..) => False
  | _ => True

theorem Op.neutral_of_read (read : o.isRead = true) : o.Neutral := by
  cases o <;> trivial

theorem fits_of_neutral (leases : Leases s) (neutral : o.Neutral) : Fits batch s o where
  inserts := by
    rintro r rfl key keyed
    have unkeyed : r.idempotencyKey = none := neutral
    rw [unkeyed] at keyed
    cases keyed
  fills := by
    rintro c rfl
    exact neutral.elim
  places := by cases o <;> first | rfl | exact neutral.elim
  queues := by
    rintro w rfl r mem target guard _ preparing moved
    have unleased : r.leaseToken = none := by
      by_contra leased
      obtain ⟨_, running | requested⟩ := leases.active r mem (Option.isSome_iff_ne_none.mpr leased)
      · rw [running] at preparing
        cases preparing
      · rw [requested] at preparing
        cases preparing
    cases w with
    | enqueueQueued | preparingQueued | preparingFailed | finalizeCancelled => exact neutral.elim
    | refreshCounts | syncCounts => exact absurd preparing moved
    | heartbeat | authReady | pauseAuth | finish | dispatchFailed | pauseClaimed | stopRequeue =>
      simp [RunWrite.guard, unleased] at guard
    | requestCancel | resume | resumeAuth | requeueExpired | requeueOrphan | expireLegacy =>
      simp [RunWrite.guard, preparing] at guard

end

/-! ## The contract -/

def enqueues (batch : IdempotencyKey → List ObjectId) : Contract scheduler where
  guard := (enqueueing batch).both inPlace
  known := Consistent
  inv := Enqueued batch
  guar _ := GoesOn

section
variable {batch : IdempotencyKey → List ObjectId} {t : Tid} {φ : State → Prop}

theorem enqueues_idle : Idle (enqueues batch) := fun _ _ _ => .of_same rfl rfl

theorem persistent_of_goesOn (kept : ∀ s s', GoesOn s s' → φ s → φ s') :
    (enqueues batch).Persistent φ :=
  fun _ s s' _ _ _ _ goesOn now => kept s s' goesOn now

theorem filling_persistent (run : ObjectId) (ids : List ObjectId) :
    (enqueues batch).Persistent (Filling run ids) :=
  persistent_of_goesOn fun _ _ => Filling.goesOn

theorem present_persistent (run x : ObjectId) : (enqueues batch).Persistent (Present run x) :=
  persistent_of_goesOn fun _ _ => Present.goesOn

theorem nothing_stable : (enqueues batch).Stable t fun _ => True :=
  Contract.Stable.true (C := enqueues batch) t

/-- An operation that fits keeps the invariant. -/
theorem keeps_of_fits {o : Op} {ψ : Except PyError (Ret o) → State → Prop}
    (fits : ∀ s, Consistent s → Enqueued batch s → φ s → takesPlace s o = false →
      failsPreparing s o = false → Fits batch s o)
    (lost : o.isStore = true → ∀ s, Consistent s → Enqueued batch s → φ s → ψ (.error driverError) s)
    (done : ∀ s i s', Consistent s → Enqueued batch s → φ s → post t i s o = some s' →
      ψ (reply t i s o) s' ∧ (o.isStore = true → ψ (.error driverError) s')) :
    (enqueues batch).Keeps t φ o ψ := by
  refine keeps_of_post enqueues_idle lost ?_
  intro s i s' known known' inv now admitted posted
  simp only [enqueues, Guard.both, inPlace, Bool.and_eq_true, Bool.not_eq_true'] at admitted
  have change := post_change posted
  have inv' := inv.step known.keys known'.keys (fits s known inv now admitted.2.1 admitted.2.2) change
  exact ⟨inv', change.goesOn known.keys, done s i s' known inv now posted⟩

/-- An operation of which only that it fits is used. -/
theorem fits_safe {o : Op} (fits : ∀ s, Consistent s → Enqueued batch s → φ s →
    takesPlace s o = false → failsPreparing s o = false → Fits batch s o) :
    (enqueues batch).Safe t φ (@Prog.perform Sig o) (fun _ _ => True) fun _ _ => True := by
  refine Contract.Safe.perform (fun _ => nothing_stable) (fun _ => nothing_stable) ?_
  refine keeps_of_fits fits (fun _ _ _ _ _ => trivial) fun s i s' _ _ _ _ => ⟨?_, fun _ => trivial⟩
  cases reply t i s o <;> trivial

theorem neutral_safe {α : Type} {p : Code α} (uses : p.Uses Op.Neutral) :
    (enqueues batch).Safe t (fun _ => True) p (fun _ _ => True) fun _ _ => True :=
  Contract.Safe.of_uses uses nothing_stable fun _ neutral =>
    keeps_of_fits (fun _ known _ _ _ _ => fits_of_neutral known.leases neutral)
      (fun _ _ _ _ _ => trivial) fun _ _ _ _ _ _ _ => ⟨trivial, fun _ => trivial⟩

/-- A read: what its answer says of the state. -/
theorem query_safe {o : Op} {Q : Ret o → State → Prop} (read : o.isRead = true)
    (stable : ∀ r, (enqueues batch).Stable t (Q r))
    (answers : ∀ i s r, Enqueued batch s → φ s → readsDistinct s o = true →
      reply t i s o = .ok r → Q r s) :
    (enqueues batch).Safe t φ (@Prog.perform Sig o) Q fun _ _ => True := by
  refine read_safe read enqueues_idle stable (fun _ => nothing_stable) ?_ fun _ _ _ _ _ => trivial
  intro i s r _ inv now admitted answer
  simp only [enqueues, Guard.both, enqueueing, Bool.and_eq_true] at admitted
  exact answers i s r inv now admitted.1 answer

/-- A read of which nothing is used. -/
theorem query_frame {o : Op} (read : o.isRead = true) (stable : (enqueues batch).Stable t φ) :
    (enqueues batch).Safe t φ (@Prog.perform Sig o) (fun _ => φ) fun _ _ => True :=
  read_frame read enqueues_idle stable (fun _ => nothing_stable) fun _ _ _ _ _ => trivial

end

/-! ## The snapshots of a call -/

theorem sameSnapshots_iff {a b : List ObjectId} : sameSnapshots a b = true ↔ ∀ x, x ∈ a ↔ x ∈ b := by
  simp only [sameSnapshots, Bool.and_eq_true, List.all_eq_true, List.contains_iff_mem]
  exact ⟨fun h x => ⟨h.1 x, h.2 x⟩, fun h => ⟨fun x => (h x).mp, fun x => (h x).mpr⟩⟩

theorem filterMap_find_ids
    (all : ∀ id ∈ ids, ∃ x ∈ found, x.id = id) :
    (ids.filterMap fun id => found.find? (·.id == id)).map (·.id) = ids := by
  induction ids with
  | nil => rfl
  | cons id ids ih =>
    obtain ⟨x, mem, isId⟩ := all id (.head _)
    have rest := ih fun y later => all y (.tail _ later)
    cases here : found.find? (·.id == id) with
    | none =>
      have missing := List.find?_eq_none.mp here x mem
      exact absurd (beq_iff_eq.mpr isId) missing
    | some y =>
      have isY : y.id = id := by simpa using List.find?_some here
      simp only [List.filterMap_cons, here, List.map_cons, isY, rest]

/-- A check that was passed. -/
theorem ok_of_check {α : Type} {failed : Bool} {e : PyError} {f : PUnit → Except PyError α}
    {rest : Except PyError α} {a : α}
    (h : (if failed = true then (throw e : Except PyError PUnit) >>= f else rest) = .ok a) :
    failed = false ∧ rest = .ok a := by
  cases failed with
  | true => cases h
  | false => exact ⟨rfl, h⟩

/-- The snapshots a call enqueues are those it asked for, in its order. -/
theorem validateSnapshots_ids {c : ExecutionContext} {policy : ExecutionPolicy}
    {snapshots : List RequestSnapshot}
    (h : validateSnapshots ids c policy found = .ok snapshots) : snapshots.map (·.id) = ids := by
  unfold validateSnapshots at h
  obtain ⟨present, h⟩ := ok_of_check h
  obtain ⟨_, h⟩ := ok_of_check h
  obtain ⟨_, h⟩ := ok_of_check h
  obtain ⟨_, h⟩ := ok_of_check h
  obtain ⟨_, h⟩ := ok_of_check h
  obtain ⟨_, h⟩ := ok_of_check h
  obtain rfl := Except.ok.inj h
  refine filterMap_find_ids fun id mem => ?_
  by_contra missing
  have absent : id ∈ ids.filter fun id => !found.any (·.id == id) := by
    refine List.mem_filter.mpr ⟨mem, ?_⟩
    simpa using fun x memX isId => missing ⟨x, memX, isId⟩
  simp only [Bool.not_eq_false', List.isEmpty_iff] at present
  rw [present] at absent
  cases absent

/-- Snapshots that were read for a preparing run and are as many as its ids are all of them. -/
theorem found_all
    (distinct : (found.map (·.id)).Nodup) (within : ∀ x ∈ found, x.id ∈ ids)
    (length : found.length = ids.length) : ∀ id ∈ ids, ∃ x ∈ found, x.id = id := by
  intro id mem
  have inside : found.map (·.id) ⊆ ids := by
    intro y memY
    obtain ⟨x, memX, rfl⟩ := List.mem_map.mp memY
    exact within x memX
  have all : (found.map (·.id)).Perm ids :=
    (List.subperm_of_subset distinct inside).perm_of_length_le (by simp [length])
  obtain ⟨x, memX, isId⟩ := List.mem_map.mp (all.mem_iff.mpr mem)
  exact ⟨x, memX, isId⟩

/-! ## The programs -/

section
variable {batch : IdempotencyKey → List ObjectId} {t : Tid}

theorem Change.upserted {i : Input} {s s' : State} {c : SecurityExecutionCheckpoint}
    (h : Change t i s (.upsertCheckpoint c) s') : Present c.runId c.snapshotId s' := by
  cases h with
  | nothing _ other => exact absurd rfl (other _)
  | present c d mem sameRun sameSnapshot => exact ⟨d, mem, sameRun, sameSnapshot⟩
  | upsertCheckpoint c free => exact ⟨_, List.mem_append_right _ (.head _), rfl, rfl⟩
  | memory o w f own change => cases change

variable {ids : List ObjectId} {snapshots : List RequestSnapshot} {key : IdempotencyKey} {o : Op}

/-- One upsert: afterwards the snapshot has a checkpoint. -/
theorem upsertCheckpoint_safe (c : SecurityExecutionCheckpoint)
    (inIds : c.snapshotId ∈ ids) (below : c.ordinal < ids.length) :
    (enqueues batch).Safe t (Filling c.runId ids) (upsertCheckpoint c)
      (fun _ => Present c.runId c.snapshotId) fun _ _ => True := by
  refine Contract.Safe.perform (fun _ => (present_persistent _ _).stable t) (fun _ => nothing_stable) ?_
  refine keeps_of_fits ?_ (fun _ _ _ _ _ => trivial) ?_
  · intro s _ _ filling free _
    refine ⟨fun _ op => (by cases op), fun d op => ?_, free, fun _ op => (by cases op)⟩
    cases op
    exact ⟨ids, filling, inIds, below⟩
  · exact fun s i s' _ _ _ posted => ⟨(post_change posted).upserted, fun _ => trivial⟩

/-- The bulk write of the checkpoints: where it raises nothing, every snapshot has one. -/
theorem ensureCheckpoints_safe (run : SecurityTestRun) (covers : snapshots.map (·.id) = ids) :
    (enqueues batch).Safe t (Filling run.id ids) (ensureCheckpoints run snapshots)
      (fun _ s => Filling run.id ids s ∧ ∀ x ∈ ids, Present run.id x s) fun _ _ => True := by
  let todo (l : List (RequestSnapshot × Nat)) : Prop := ∀ p ∈ l, p.1.id ∈ ids ∧ p.2 < ids.length
  let left (l : List (RequestSnapshot × Nat)) (s : State) : Prop :=
    ∀ x ∈ ids, Present run.id x s ∨ ∃ p ∈ l, p.1.id = x
  have left_kept : ∀ l, (enqueues batch).Persistent (left l) := by
    refine fun l => persistent_of_goesOn fun s s' goesOn now x mem => ?_
    exact (now x mem).imp_left (Present.goesOn goesOn)
  have filling : (enqueues batch).Persistent (Filling run.id ids) := filling_persistent run.id ids
  refine Contract.Safe.bind (query_frame rfl (filling.stable t)) fun now => ?_
  refine Contract.Safe.weaken (Contract.Safe.bulk (C := enqueues batch) (t := t)
    (φ := fun l s => todo l ∧ Filling run.id ids s ∧ left l s)
    (ψ := fun l s => todo l ∧ Filling run.id ids s) ?_ ?_ snapshots.zipIdx) ?_ ?_ fun _ _ _ _ _ => trivial
  · refine fun p rest => Contract.Safe.assume fun todo_ => ?_
    have one : (enqueues batch).Safe t (Filling run.id ids) (upsertCheckpoint (newCheckpoint run p.2 p.1 now))
        (fun _ => Present run.id p.1.id) fun _ _ => True :=
      upsertCheckpoint_safe (newCheckpoint run p.2 p.1 now) (todo_ p (.head _)).1 (todo_ p (.head _)).2
    have later : todo rest := fun q mem => todo_ q (.tail _ mem)
    refine (one.frame (filling.and (left_kept (p :: rest)))).weaken ?_ ?_ ?_
    · exact fun s _ _ now => ⟨now.1, now⟩
    · rintro _ s _ _ ⟨present, here, left_⟩
      refine ⟨later, here, fun x mem => (left_ x mem).elim .inl ?_⟩
      rintro ⟨q, memQ, rfl⟩
      rcases List.mem_cons.mp memQ with rfl | inRest
      · exact .inl present
      · exact .inr ⟨q, inRest, rfl⟩
    · exact fun _ s _ _ now => ⟨later, now.2.1⟩
  · refine fun p rest => Contract.Safe.assume fun todo_ => ?_
    have one : (enqueues batch).Safe t (Filling run.id ids) (upsertCheckpoint (newCheckpoint run p.2 p.1 now))
        (fun _ => Present run.id p.1.id) fun _ _ => True :=
      upsertCheckpoint_safe (newCheckpoint run p.2 p.1 now) (todo_ p (.head _)).1 (todo_ p (.head _)).2
    have later : todo rest := fun q mem => todo_ q (.tail _ mem)
    refine (one.frame filling).weaken (fun s _ _ now => ⟨now, now⟩) ?_ ?_
    · exact fun _ s _ _ now => ⟨later, now.2⟩
    · exact fun _ s _ _ now => ⟨later, now.2⟩
  · intro s _ _ here
    refine ⟨fun p mem => ?_, here, fun x mem => .inr ?_⟩
    · have bound := List.snd_lt_of_mem_zipIdx mem
      have inside := List.fst_mem_of_mem_zipIdx mem
      rw [← covers]
      exact ⟨List.mem_map_of_mem inside, by simpa using bound⟩
    · rw [← covers] at mem
      obtain ⟨y, memY, isX⟩ := List.mem_map.mp mem
      obtain ⟨n, paired⟩ := List.mem_iff_getElem?.mp memY
      exact ⟨(y, n), List.mem_zipIdx_iff_getElem?.mpr paired, isX⟩
  · rintro _ s _ _ ⟨_, here, present⟩
    refine ⟨here, fun x mem => (present x mem).resolve_right ?_⟩
    rintro ⟨_, none, _⟩
    cases none

/-- An update of a run none of whose states is preparing, or whose checkpoints all exist. -/
theorem fits_of_ready {s : State} {w : RunWrite} (ready : ∀ r ∈ s.db.runs, r.id = w.target →
    r.idempotencyKey.isSome = true → r.status = .preparing → ∀ x ∈ r.snapshotIds, Present r.id x s) :
    Fits batch s (.updateRun w) where
  inserts _ op := by cases op
  fills _ op := by cases op
  places := rfl
  queues v op r mem target _ keyed preparing _ := by
    cases op
    exact ready r mem target keyed preparing

theorem fits_of_present {s : State} {w : RunWrite} (keys : Keys s)
    (filling : Filling w.target ids s) (present : ∀ x ∈ ids, Present w.target x s) :
    Fits batch s (.updateRun w) := by
  refine fits_of_ready fun r mem target keyed _ x inRun => ?_
  obtain ⟨same, _⟩ := filling.of_mem keys mem target keyed
  rw [target]
  exact present x ((same x).mp inRun)

/-- The end of an enqueue. -/
theorem queuePrepared_safe (run : SecurityTestRun) (covers : snapshots.map (·.id) = ids) (pending : Nat) :
    (enqueues batch).Safe t (Filling run.id ids) (queuePrepared run snapshots pending)
      (fun _ _ => True) fun _ _ => True := by
  refine Contract.Safe.ite (fun _ => ?_) fun _ => Contract.Safe.ret fun _ _ _ _ => trivial
  refine Contract.Safe.bind (ensureCheckpoints_safe run covers) fun _ => ?_
  have filled : (enqueues batch).Persistent fun s =>
      Filling run.id ids s ∧ ∀ x ∈ ids, Present run.id x s :=
    persistent_of_goesOn fun s s' goesOn now =>
      ⟨now.1.goesOn goesOn, fun x mem => (now.2 x mem).goesOn goesOn⟩
  refine Contract.Safe.bind (query_frame rfl (filled.stable t)) fun now => ?_
  refine Contract.Safe.bind (fits_safe fun s known _ here _ _ => ?_) fun _ => ?_
  · exact fits_of_present known.keys here.1 here.2
  · exact neutral_safe (.bind (.perform (by trivial)) fun found => by cases found <;> trivial)

/-- The run a call goes on with carries its key. -/
theorem filling_of_key {s : State} (inv : Enqueued batch s) {r : SecurityTestRun}
    (mem : r ∈ s.db.runs) (keyed : r.idempotencyKey = some key) (distinct : ids.Nodup) (asked : sameSnapshots ids (batch key) = true) :
    Filling r.id ids s := by
  obtain ⟨nodup, same⟩ := inv.asked r mem key keyed
  have iff : ∀ x, x ∈ r.snapshotIds ↔ x ∈ ids := fun x =>
    (sameSnapshots_iff.mp same x).trans (sameSnapshots_iff.mp asked x).symm
  refine ⟨r, mem, rfl, fun _ => ⟨iff, ?_⟩⟩
  exact ((List.perm_ext_iff_of_nodup nodup distinct).mpr iff).length_eq

theorem findKey_safe (distinct : ids.Nodup)
    (asked : sameSnapshots ids (batch key) = true) :
    (enqueues batch).Safe t (fun _ => True) (findRun (.byKey key))
      (fun found s => ∀ r, found = some r → Filling r.id ids s) fun _ _ => True := by
  refine query_safe rfl (fun found => Contract.Stable.all fun r =>
    ((filling_persistent r.id ids).stable t).imp) ?_
  intro i s found inv _ _ answer r is
  obtain rfl := Except.ok.inj answer
  have keyed := List.find?_some is
  exact filling_of_key inv (List.mem_of_find?_eq_some is) (beq_iff_eq.mp keyed) distinct asked

theorem insertOrFind_safe (q : EnqueueRequest)
    (now : Timestamp) (distinct : ids.Nodup) (asked : sameSnapshots ids (batch key) = true) :
    (enqueues batch).Safe t (fun _ => True) (insertOrFind (preparingRun q ids key now) key)
      (fun found => Filling found.1.id ids) fun _ _ => True := by
  have filling : ∀ r : SecurityTestRun, (enqueues batch).Stable t (Filling r.id ids) :=
    fun r => (filling_persistent r.id ids).stable t
  refine Contract.Safe.handle (E := fun _ _ => True) (Contract.Safe.bind
    (Q := fun r => Filling r.id ids) ?_ fun r => Contract.Safe.ret fun _ _ _ now => now) fun e => ?_
  · refine Contract.Safe.perform filling (fun _ => nothing_stable) ?_
    refine keeps_of_fits ?_ (fun _ _ _ _ _ => trivial) ?_
    · intro s _ _ _ _ _
      refine ⟨fun r op k keyed => ?_, fun _ op => (by cases op), rfl, fun _ op => (by cases op)⟩
      cases op
      cases keyed
      exact ⟨rfl, distinct, asked⟩
    · intro s i s' known inv _ posted
      refine ⟨?_, fun _ => trivial⟩
      simp only [post] at posted
      simp only [reply]
      split at posted
      · next taken => rw [if_pos taken]; trivial
      · next free =>
        rw [if_neg free]
        cases posted
        exact ⟨_, List.mem_append_right _ (.head _), rfl, fun _ => ⟨fun _ => .rfl, rfl⟩⟩
  · refine Contract.Safe.ite (fun _ => ?_) fun _ => Contract.Safe.raise fun _ _ _ _ => trivial
    refine Contract.Safe.bind (findKey_safe distinct asked) fun found => ?_
    cases found with
    | none => exact Contract.Safe.raise fun _ _ _ _ => trivial
    | some stored => exact Contract.Safe.ret fun _ _ _ here => here stored rfl

/-- `enqueue_snapshot_batch`, with the snapshots `batch` has for its key. -/
theorem enqueueSnapshotBatch_safe (q : EnqueueRequest) (carried : carries batch (.enqueue q) = true) :
    (enqueues batch).Safe t (fun _ => True) (enqueueSnapshotBatch q) (fun _ _ => True)
      fun _ _ => True := by
  refine Contract.Safe.ofExcept_bind (fun _ _ => ?_) fun _ _ _ _ _ _ => trivial
  refine Contract.Safe.ofExcept_bind (fun _ _ => ?_) fun _ _ _ _ _ _ => trivial
  refine Contract.Safe.ofExcept_bind (fun ids normal => ?_) fun _ _ _ _ _ _ => trivial
  have distinct := normalizeSnapshotIds_nodup normal
  have asked : sameSnapshots ids (batch (q.key ids)) = true := by simpa [carries, normal] using carried
  refine Contract.Safe.bind (query_frame rfl nothing_stable) fun found => ?_
  refine Contract.Safe.ofExcept_bind (fun snapshots valid => ?_) fun _ _ _ _ _ _ => trivial
  have covers := validateSnapshots_ids valid
  refine Contract.Safe.bind (findKey_safe distinct asked) fun existing => ?_
  cases existing with
  | some existing =>
    refine Contract.Safe.ite (fun _ => Contract.Safe.raise fun _ _ _ _ => trivial) fun _ => ?_
    refine Contract.Safe.ite (fun _ => Contract.Safe.ret fun _ _ _ _ => trivial) fun _ => ?_
    refine Contract.Safe.bind ((queuePrepared_safe existing covers _).pre fun s _ _ here => ?_) fun _ =>
      Contract.Safe.ret fun _ _ _ _ => trivial
    exact here existing rfl
  | none =>
    refine Contract.Safe.bind (Q := fun _ _ => True) ?_ fun now => ?_
    · exact (query_frame rfl nothing_stable).pre fun _ _ _ _ => trivial
    · refine Contract.Safe.bind (insertOrFind_safe q now distinct asked) fun made => ?_
      exact Contract.Safe.bind (queuePrepared_safe made.1 covers _) fun _ =>
        Contract.Safe.ret fun _ _ _ _ => trivial

theorem RequeueOp.neutral (h : RequeueOp o) : o.Neutral := by
  cases h with
  | read h => exact Op.neutral_of_read h
  | _ => trivial

/-- A preparing run left behind, with the snapshots it names. -/
theorem recoverPreparing_safe (now : Timestamp) (run : SecurityTestRun) :
    (enqueues batch).Safe t (Filling run.id run.snapshotIds) (recoverPreparing now run)
      (fun _ _ => True) fun _ _ => True := by
  let read (found : List RequestSnapshot) : Prop :=
    (found.map (·.id)).Nodup ∧ ∀ x ∈ found, x.id ∈ run.snapshotIds
  have filling : (enqueues batch).Persistent (Filling run.id run.snapshotIds) :=
    filling_persistent run.id run.snapshotIds
  refine Contract.Safe.bind (Q := fun found s => read found ∧ Filling run.id run.snapshotIds s)
    (query_safe rfl (fun _ => Contract.Stable.const.and (filling.stable t)) ?_) fun found => ?_
  · intro i s found _ here distinct answer
    obtain rfl := Except.ok.inj answer
    refine ⟨⟨?_, fun x mem => ?_⟩, here⟩
    · exact (of_decide_eq_true distinct).sublist (List.filter_sublist.map _)
    · exact List.contains_iff_mem.mp (List.mem_filter.mp mem).2
  · refine Contract.Safe.assume fun found_ => Contract.Safe.ite (fun _ => ?_) fun complete => ?_
    · refine Contract.Safe.bind (fits_safe fun s _ _ _ _ spared => ?_) fun _ =>
        Contract.Safe.ret fun _ _ _ _ => trivial
      refine fits_of_ready fun r mem target _ preparing => ?_
      have spared := List.any_eq_false.mp spared r mem
      exact absurd (by simp [show r.id = run.id from target, preparing]) spared
    · simp only [Bool.or_eq_true, bne_iff_ne, ne_eq, not_or, not_not] at complete
      have all := found_all found_.1 found_.2 complete.2
      refine Contract.Safe.bind (ensureCheckpoints_safe run (filterMap_find_ids all)) fun _ => ?_
      refine Contract.Safe.bind (fits_safe fun s known _ here _ _ => ?_) fun _ =>
        Contract.Safe.ret fun _ _ _ _ => trivial
      exact fits_of_present known.keys here.1 here.2

/-- A run that is not preparing any more. -/
def Prepared (run : ObjectId) (s : State) : Prop :=
  ∃ r ∈ s.db.runs, r.id = run ∧ r.status ≠ .preparing

theorem prepared_persistent (run : ObjectId) : (enqueues batch).Persistent (Prepared run) := by
  refine persistent_of_goesOn fun s s' goesOn ⟨r, mem, isRun, prepared⟩ => ?_
  obtain ⟨r', mem', later⟩ := goesOn.runs r mem
  exact ⟨r', mem', later.id.trans isRun, fun preparing => prepared (later.prepared preparing)⟩

/-- The finaliser of a run that is not preparing. -/
theorem recoverCancelled_safe (run : SecurityTestRun) :
    (enqueues batch).Safe t (Prepared run.id) (recoverCancelled run) (fun _ _ => True)
      fun _ _ => True := by
  have prepared : (enqueues batch).Persistent (Prepared run.id) := prepared_persistent run.id
  have neutral : ∀ {α : Type} {p : Code α}, p.Uses Op.Neutral →
      (enqueues batch).Safe t (Prepared run.id) p (fun _ => Prepared run.id) fun _ _ => True :=
    fun uses => ((neutral_safe uses).frame prepared).weaken (fun _ _ _ now => ⟨trivial, now⟩)
      (fun _ _ _ _ now => now.2) fun _ _ _ _ _ => trivial
  refine Contract.Safe.bind (neutral (.perform (by trivial))) fun now => ?_
  refine Contract.Safe.bind (neutral (.perform (by trivial))) fun _ => ?_
  refine Contract.Safe.bind (neutral (checkpointCounts_uses (fun _ => Op.neutral_of_read) _))
    fun counts => ?_
  refine Contract.Safe.bind (fits_safe fun s known _ here _ _ => ?_) fun _ =>
    Contract.Safe.ret fun _ _ _ _ => trivial
  obtain ⟨q, memQ, isRun, moved⟩ := here
  refine fits_of_ready fun r mem target _ preparing => ?_
  obtain rfl := known.keys.runIds.eq_of_key memQ mem (isRun.trans target.symm)
  exact absurd preparing moved

/-- `recover_expired_executions`. -/
theorem recoverExpiredExecutions_safe (queue : String) (orphanGrace legacyStale : Int) :
    (enqueues batch).Safe t (fun _ => True) (recoverExpiredExecutions queue orphanGrace legacyStale)
      (fun _ _ => True) fun _ _ => True := by
  have requeue : ∀ {body : SecurityTestRun → Code Unit} (l : List SecurityTestRun),
      (∀ r, (body r).Uses RequeueOp) → (enqueues batch).Safe t (fun _ => True)
        (Prog.forEach body l) (fun _ _ => True) fun _ _ => True :=
    fun l uses => neutral_safe ((Prog.Uses.forEach uses).mono fun _ => RequeueOp.neutral)
  -- a query of which only one fact about each run found is used
  have query : ∀ {q : RunQuery} {ρ : SecurityTestRun → State → Prop},
      (∀ r, (enqueues batch).Persistent (ρ r)) →
      (∀ s, Enqueued batch s → ∀ r ∈ s.db.runs, RunQuery.accepts r q = true → ρ r s) →
      (enqueues batch).Safe t (fun _ => True) (queryRuns q)
        (fun found s => True ∧ ∀ r ∈ found, ρ r s) fun _ _ => True := by
    intro q ρ kept holds
    refine query_safe rfl (fun found => nothing_stable.and (Contract.Stable.all fun r =>
      ((kept r).stable t).imp)) fun i s found inv _ _ answer => ⟨trivial, fun r mem => ?_⟩
    obtain rfl := Except.ok.inj answer
    exact holds s inv r (List.mem_filter.mp mem).1 (List.mem_filter.mp mem).2
  refine Contract.Safe.bind (query_frame rfl nothing_stable) fun now => ?_
  refine Contract.Safe.bind (query (fun r => filling_persistent r.id r.snapshotIds)
    fun s _ r mem _ => ⟨r, mem, rfl, fun _ => ⟨fun _ => .rfl, rfl⟩⟩) fun preparing => ?_
  refine Contract.Safe.bind (Contract.Safe.forEach_each
    (fun r => filling_persistent r.id r.snapshotIds)
    (fun r => (recoverPreparing_safe now r).pre fun _ _ _ now => now.2) preparing) fun _ => ?_
  refine Contract.Safe.bind (query_frame rfl nothing_stable) fun expired => ?_
  refine Contract.Safe.bind (requeue expired (recoverExpired_uses now)) fun _ => ?_
  refine Contract.Safe.bind (query_frame rfl nothing_stable) fun orphaned => ?_
  refine Contract.Safe.bind (requeue orphaned (recoverOrphan_uses now _)) fun _ => ?_
  refine Contract.Safe.bind (query_frame rfl nothing_stable) fun legacy => ?_
  refine Contract.Safe.bind (requeue legacy (expireLegacy_uses now _)) fun _ => ?_
  refine Contract.Safe.bind (query (fun r => prepared_persistent r.id) ?_) fun requested => ?_
  · intro s _ r mem accepted
    simp only [RunQuery.accepts, Bool.and_eq_true, beq_iff_eq] at accepted
    exact ⟨r, mem, rfl, by simp [accepted.1.1.2]⟩
  · exact Contract.Safe.forEach_each (fun r => prepared_persistent r.id)
      (fun r => (recoverCancelled_safe r).pre fun _ _ _ now => now.2) requested

theorem ClaimedOp.neutral {claimed : ClaimedRun} (h : ClaimedOp claimed o) : o.Neutral := by
  cases h with
  | failure h =>
    cases h with
    | read h => exact Op.neutral_of_read h
    | _ => trivial
  | _ => trivial

theorem DispatchOp.neutral (h : DispatchOp o) : o.Neutral := by
  cases h with
  | loop cl h =>
    cases h with
    | claimed h => exact h.neutral
    | submit id => trivial
  | settle cl h =>
    cases h with
    | claimed h => exact h.neutral
    | _ => trivial
  | startExecution job => trivial

theorem PoolThreadOp.neutral {job : Job} {id : ObjectId} (h : PoolThreadOp job id o) :
    o.Neutral := by
  cases h with
  | replay h =>
    cases h with
    | work h =>
      cases h with
      | read h => exact Op.neutral_of_read h
      | _ => trivial
    | _ => trivial
  | complete => trivial

theorem HeartbeatOp.neutral {job : Job} (h : HeartbeatOp job o) : o.Neutral := by
  cases h with
  | read h => exact Op.neutral_of_read h
  | _ => trivial

theorem ResumeOp.neutral (h : ResumeOp o) : o.Neutral := by
  cases h with
  | read h => exact Op.neutral_of_read h
  | _ => trivial

/-- Every call that `batch` admits. -/
theorem request_enqueues (r : Request) (carried : carries batch r = true) :
    (enqueues batch).Safe t (fun _ => True) r.code (fun _ _ => True) fun _ _ => True := by
  cases r with
  | enqueue q =>
    exact Contract.Safe.bind (enqueueSnapshotBatch_safe q carried) fun _ =>
      Contract.Safe.ret fun _ _ _ _ => trivial
  | recover queue orphanGrace legacyStale => exact recoverExpiredExecutions_safe ..
  | resume run =>
    exact neutral_safe (.bind ((resumeExecution_uses run).mono fun _ => ResumeOp.neutral) fun _ => .ret)
  | resumeAuth run revision =>
    exact neutral_safe (.bind ((resumeAuthDependency_uses run revision).mono fun _ => ResumeOp.neutral)
      fun _ => .ret)
  | createRun checkType context =>
    refine neutral_safe (.bind (.ofExcept_bind fun _ _ => ?_) fun _ => .ret)
    exact .bind (.perform (by trivial)) fun _ => .perform rfl
  | cancel | retry => cases carried

theorem runOnce_safe (setup : WorkerSetup) : (enqueues batch).Safe t (fun _ => True) (runOnce setup)
    (fun _ _ => True) fun _ _ => True := by
  refine Contract.Safe.bind (recoverExpiredExecutions_safe ..) fun _ => ?_
  refine Contract.Safe.bind (neutral_safe (claimNextExecution_uses (fun _ => Op.neutral_of_read) _ _ _
    fun _ _ => trivial)) fun claimed => ?_
  cases claimed with
  | none => exact Contract.Safe.ret fun _ _ _ _ => trivial
  | some claimed => exact neutral_safe ((dispatchClaimed_uses setup claimed).mono fun _ => DispatchOp.neutral)

theorem enqueues_holds : (enqueues batch).Holds := by
  refine holds_of_threads (fun _ => nothing_stable) ?_ ?_
  · intro u s s' same inv
    refine ⟨?_, .of_same same.runs same.checkpoints⟩
    obtain ⟨runKeys, owned, asked, within, places, filled⟩ := inv
    constructor <;> simp only [Present, same.runs, same.checkpoints] <;> assumption
  · intro t d s p s' _ _ _ admitted started
    refine ⟨fun _ => True, nothing_stable, trivial, ?_⟩
    cases started with
    | call n r =>
      simp only [enqueues, Guard.both, enqueueing, Bool.and_eq_true] at admitted
      exact request_enqueues r admitted.1
    | worker w setup => exact runOnce_safe setup
    | pool w k job slot => exact neutral_safe ((poolThread_uses job _).mono fun _ => PoolThreadOp.neutral)
    | heartbeat w job => exact neutral_safe ((heartbeatThread_uses job).mono fun _ => HeartbeatOp.neutral)

/-- In every state the admitted calls reach. -/
theorem enqueued_of_run {relations : List ParameterRelation}
    {c : Config scheduler} (run : Run ((enqueueing batch).both inPlace) (initial snapshots relations) c) :
    Enqueued batch c.state := by
  have start : Enqueued batch (fresh snapshots relations) := by
    constructor <;> simp [fresh, Distinct]
  have known : ∀ e, Run (enqueues batch).guard (initial snapshots relations) e → Consistent e.state :=
    fun e reached => consistent_of_run reached
  exact (Contract.sound enqueues_holds known (Contract.Sound.initial start fun _ => trivial) run).inv

end

/-! ## Enqueued once -/

section
variable {batch : IdempotencyKey → List ObjectId} {s : State}

/-- The snapshots of the checkpoints of a run that is not preparing are those of the run. -/
theorem Enqueued.snapshots_perm (h : Enqueued batch s) (keys : Keys s) {r : SecurityTestRun}
    (mem : r ∈ s.db.runs) {key : IdempotencyKey} (keyed : r.idempotencyKey = some key)
    (prepared : r.status ≠ .preparing) :
    ((s.db.checkpoints.filter (·.runId == r.id)).map (·.snapshotId)).Perm r.snapshotIds := by
  have isSome : r.idempotencyKey.isSome = true := by rw [keyed]; rfl
  have distinct : ((s.db.checkpoints.filter (·.runId == r.id)).map (·.snapshotId)).Nodup := by
    refine List.Nodup.map_on ?_ (keys.checkpointIds.of_map.filter _)
    intro c memC d memD same
    obtain ⟨memC, ofRun⟩ := List.mem_filter.mp memC
    obtain ⟨memD, ofRun'⟩ := List.mem_filter.mp memD
    refine keys.pairs.eq_of_key memC memD ?_
    rw [beq_iff_eq.mp ofRun, beq_iff_eq.mp ofRun', same]
  refine (List.perm_ext_iff_of_nodup distinct (h.asked r mem key keyed).1).mpr fun x => ?_
  constructor
  · intro inside
    obtain ⟨c, memC, rfl⟩ := List.mem_map.mp inside
    obtain ⟨memC, ofRun⟩ := List.mem_filter.mp memC
    exact (h.within r mem isSome c memC (beq_iff_eq.mp ofRun)).1
  · intro inside
    obtain ⟨c, memC, ofRun, rfl⟩ := h.filled r mem isSome prepared x inside
    exact List.mem_map_of_mem (List.mem_filter.mpr ⟨memC, beq_iff_eq.mpr ofRun⟩)

theorem Enqueued.ordinals_perm (h : Enqueued batch s) (keys : Keys s) {r : SecurityTestRun}
    (mem : r ∈ s.db.runs) {key : IdempotencyKey} (keyed : r.idempotencyKey = some key)
    (prepared : r.status ≠ .preparing) :
    ((s.db.checkpoints.filter (·.runId == r.id)).map (·.ordinal)).Perm
      (List.range r.snapshotIds.length) := by
  have isSome : r.idempotencyKey.isSome = true := by rw [keyed]; rfl
  have length := (h.snapshots_perm keys mem keyed prepared).length_eq
  have distinct : ((s.db.checkpoints.filter (·.runId == r.id)).map (·.ordinal)).Nodup := by
    refine List.Nodup.map_on ?_ (keys.checkpointIds.of_map.filter _)
    intro c memC d memD same
    obtain ⟨memC, ofRun⟩ := List.mem_filter.mp memC
    obtain ⟨memD, ofRun'⟩ := List.mem_filter.mp memD
    refine h.places.eq_of_key memC memD ?_
    rw [beq_iff_eq.mp ofRun, beq_iff_eq.mp ofRun', same]
  refine (List.subperm_of_subset distinct fun n inside => ?_).perm_of_length_le ?_
  · obtain ⟨c, memC, rfl⟩ := List.mem_map.mp inside
    obtain ⟨memC, ofRun⟩ := List.mem_filter.mp memC
    exact List.mem_range.mpr (h.within r mem isSome c memC (beq_iff_eq.mp ofRun)).2
  · simpa using length.ge

theorem Enqueued.one (h : Enqueued batch s) (keys : Keys s) (key : IdempotencyKey) :
    (s.db.runs.filter fun r => r.idempotencyKey == some key).length ≤ 1 := by
  have distinct : (s.db.runs.filter fun r => r.idempotencyKey == some key).Nodup :=
    keys.runIds.of_map.filter _
  have same : ∀ a ∈ s.db.runs.filter fun r => r.idempotencyKey == some key,
      ∀ b ∈ s.db.runs.filter fun r => r.idempotencyKey == some key, a = b := by
    intro a memA b memB
    obtain ⟨memA, keyA⟩ := List.mem_filter.mp memA
    obtain ⟨memB, keyB⟩ := List.mem_filter.mp memB
    rw [beq_iff_eq] at keyA keyB
    exact h.runKeys a memA b memB (by rw [keyA]; rfl) (keyA.trans keyB.symm)
  rcases found : s.db.runs.filter fun r => r.idempotencyKey == some key with _ | ⟨a, _ | ⟨b, rest⟩⟩
  · rw [found]
    exact Nat.zero_le 1
  · rw [found]
    exact le_rfl
  · rw [found] at distinct same
    have eq : a = b := same a (.head _) b (.tail _ (.head _))
    exact absurd (eq ▸ .head _) (List.nodup_cons.mp distinct).1

end

/-- **Idempotent enqueue.** However the enqueues of one batch for each key interleave with each
other, with recovery and with the workers, wherever they crash: there is one run for a key, and
once it is not preparing its checkpoints are its snapshots with the ordinals from 0 on, as long as
no checkpoint is inserted at an ordinal that is taken and no preparing run is failed. -/
theorem enqueue_idempotent (batch : IdempotencyKey → List ObjectId) (snapshots : List RequestSnapshot)
    (relations : List ParameterRelation) (c : Config scheduler)
    (run : Run ((enqueueing batch).both inPlace) (initial snapshots relations) c)
    (key : IdempotencyKey) : EnqueuedOnce key c.state := by
  have keys := (consistent_of_run run).keys
  have inv := enqueued_of_run run
  refine ⟨inv.one keys key, fun r mem keyed prepared => ⟨?_, ?_⟩⟩
  · exact inv.snapshots_perm keys mem keyed prepared
  · exact inv.ordinals_perm keys mem keyed prepared

/-- Two stored snapshots, enqueued in either order. -/
def twoSnapshots : List RequestSnapshot :=
  [{ id := 7, projectId := "p" }, { id := 8, projectId := "p" }]

def inOrder (ids : List ObjectId) : EnqueueRequest where
  checkType := "unauth_access"
  context := { projectId := "p" }
  snapshotIds := ids
  idempotencyKey := some (.explicit "batch")

/-- The first call has inserted the run when the second inserts its first checkpoint. -/
def crossedEnqueues : List (Label scheduler) :=
  called 0 (.enqueue (inOrder [7, 8])) 5 ++ called 1 (.enqueue (inOrder [8, 7])) 4 ++
    steps (.call 0) 4 {}

/-- Two calls that list the snapshots in different orders leave both checkpoints at ordinal 0. -/
theorem enqueue_not_idempotent : ¬ ∀ (batch : IdempotencyKey → List ObjectId)
    (snapshots : List RequestSnapshot) (relations : List ParameterRelation) (c : Config scheduler),
    Run (enqueueing batch) (initial snapshots relations) c → ∀ key, EnqueuedOnce key c.state := by
  intro once
  let P (c : Config scheduler) : Bool :=
    c.state.db.runs.any (fun r => r.id == 0 && r.idempotencyKey == some (.explicit "batch") &&
      r.status == .queued && r.snapshotIds.length == 2) &&
    (c.state.db.checkpoints.filter (·.runId == 0)).map (·.ordinal) == [0, 0]
  obtain ⟨c, reached, found⟩ := Run.exists_of_follow (P := P)
    (show ((initial twoSnapshots []).follow (enqueueing fun _ => [7, 8]) crossedEnqueues).any P = true by
      decide +kernel)
  simp only [P, Bool.and_eq_true, List.any_eq_true, beq_iff_eq] at found
  obtain ⟨⟨r, mem, ⟨⟨isZero, keyed⟩, queued⟩, two⟩, ordinals⟩ := found
  have ready := ((once _ _ _ c reached (.explicit "batch")).ready r mem keyed (by rw [queued]; nofun)).2
  rw [isZero, ordinals, two] at ready
  exact absurd ready.nodup_iff (by decide)

/-- The same two calls one after the other: the second finds the run queued. -/
theorem enqueue_idempotent_retried : ∃ c : Config scheduler,
    Run ((enqueueing fun _ => [7, 8]).both inPlace) (initial twoSnapshots []) c ∧
      EnqueuedOnce (.explicit "batch") c.state ∧ c.state.db.checkpoints.length = 2 := by
  let P (c : Config scheduler) : Bool := c.state.db.checkpoints.length == 2
  obtain ⟨c, reached, found⟩ := Run.exists_of_follow (P := P)
    (show ((initial twoSnapshots []).follow ((enqueueing fun _ => [7, 8]).both inPlace)
      (called 0 (.enqueue (inOrder [7, 8])) 10 ++ called 1 (.enqueue (inOrder [8, 7])) 2)).any P = true by
      decide +kernel)
  exact ⟨c, reached, enqueue_idempotent _ _ _ c reached _, beq_iff_eq.mp found⟩

end ApiManger.Scheduler
