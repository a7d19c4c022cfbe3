import ApiManger.Scheduler.Steps

/-!
# Keys, leases and claims

What holds of the collections whatever the threads do, as long as the documents
they insert are fresh: the unique indexes, one run for each lease token, a token
only on a run a worker may hold, one worker for each claim.
-/

namespace ApiManger.Scheduler
open Python Store Execution Interleaving Collection

/-- The documents an operation inserts are fresh. -/
def Op.Fresh : Op → Prop
  | .insertRun r => FreshRun r
  | .upsertCheckpoint c => FreshCheckpoint c
  | _ => True

/-! ## What the updates of a run keep -/

/-- `r'` is a later state of the run `r`. -/
structure SameRun (r r' : SecurityTestRun) : Prop where
  id : r'.id = r.id
  managed : r'.schedulerManaged = r.schedulerManaged
  snapshots : r'.snapshotIds = r.snapshotIds
  adapter : r'.adapterId = r.adapterId
  attempts : r'.maxDispatchAttempts = r.maxDispatchAttempts
  dispatched : r.dispatchAttempt ≤ r'.dispatchAttempt

theorem SameRun.refl (r : SecurityTestRun) : SameRun r r := ⟨rfl, rfl, rfl, rfl, rfl, le_rfl⟩

theorem SameRun.trans {a b c : SecurityTestRun} (h : SameRun a b) (h' : SameRun b c) : SameRun a c :=
  ⟨h'.id.trans h.id, h'.managed.trans h.managed, h'.snapshots.trans h.snapshots,
    h'.adapter.trans h.adapter, h'.attempts.trans h.attempts, h.dispatched.trans h'.dispatched⟩

theorem RunWrite.apply_same (r : SecurityTestRun) (w : RunWrite) : SameRun r (apply r w) := by
  cases w with
  | dispatchFailed id token retryable errorType now =>
    cases retryable <;> exact ⟨rfl, rfl, rfl, rfl, rfl, le_rfl⟩
  | _ => exact ⟨rfl, rfl, rfl, rfl, rfl, le_rfl⟩

theorem RunWrite.apply_dispatchAttempt (r : SecurityTestRun) (w : RunWrite) :
    (apply r w).dispatchAttempt = r.dispatchAttempt := by
  cases w with
  | dispatchFailed id token retryable errorType now => cases retryable <;> rfl
  | _ => rfl

variable {r : SecurityTestRun} {t : Tid} {i : Input} {s s' : State} {o : Op} {g : Guard scheduler}
  {snapshots : List RequestSnapshot} {relations : List ParameterRelation} {c : Config scheduler}

/-- No update sets a lease token: it stays or goes. -/
theorem RunWrite.apply_leaseToken {w : RunWrite} {τ : Token}
    (h : (apply r w).leaseToken = some τ) : r.leaseToken = some τ := by
  cases w with
  | dispatchFailed id token retryable errorType now => cases retryable <;> cases h
  | _ => first | exact h | cases h

/-! ## Keys -/

/-- The unique indexes, and ids below the next one. -/
structure Keys (s : State) : Prop where
  runIds : Distinct (·.id) s.db.runs
  runBound : Below (·.id) s.db.nextId s.db.runs
  checkpointIds : Distinct (·.id) s.db.checkpoints
  checkpointBound : Below (·.id) s.db.nextId s.db.checkpoints
  pairs : Distinct (fun c => (c.runId, c.snapshotId)) s.db.checkpoints
  resultIds : Distinct (·.id) s.db.results
  resultBound : Below (·.id) s.db.nextId s.db.results
  resultKeys : ∀ a ∈ s.db.results, ∀ b ∈ s.db.results, a.executionKey.isSome = true →
    a.executionKey = b.executionKey → a = b

theorem claimCheckpointUpdate_keeps {id run : ObjectId} {token : Token} {now : Timestamp}
    {β : Type*} (f : SecurityExecutionCheckpoint → β)
    (keeps : ∀ c, f (claimCheckpointUpdate c token now) = f c) (c : SecurityExecutionCheckpoint) :
    f (if Database.openCheckpoint id run c then claimCheckpointUpdate c token now else c) = f c := by
  split
  · exact keeps c
  · rfl

theorem claimUpdate_keepsId (r q : SecurityTestRun) (worker : String) (token : Token)
    (now expires : Timestamp) :
    (if q.id = r.id then claimUpdate r worker token now expires else q).id = q.id := by
  split
  · rename_i same
    exact same.symm
  · rfl

theorem Keys.step (keys : Keys s)
    (h : Change t i s o s') : Keys s' := by
  cases h with
  | insertRun r free => exact { keys with
      runIds := keys.runBound.distinct_append keys.runIds rfl
      runBound := keys.runBound.append rfl
      checkpointBound := keys.checkpointBound.succ
      resultBound := keys.resultBound.succ }
  | claimRun worker queue now expires r first => exact { keys with
      runIds := keys.runIds.map fun q => claimUpdate_keepsId r q worker s.nextToken now expires
      runBound := keys.runBound.map fun q => claimUpdate_keepsId r q worker s.nextToken now expires }
  | updateRun w => exact { keys with
      runIds := keys.runIds.map w.on_id
      runBound := keys.runBound.map w.on_id }
  | upsertCheckpoint c free => exact { keys with
      checkpointIds := keys.checkpointBound.distinct_append keys.checkpointIds rfl
      checkpointBound := keys.checkpointBound.append rfl
      pairs := keys.pairs.append fun d mem same =>
        free d mem (Prod.mk.inj same).1 (Prod.mk.inj same).2
      runBound := keys.runBound.succ
      resultBound := keys.resultBound.succ }
  | claimCheckpoint id run token now => exact { keys with
      checkpointIds := keys.checkpointIds.map (claimCheckpointUpdate_keeps _ fun _ => rfl)
      checkpointBound := keys.checkpointBound.map (claimCheckpointUpdate_keeps _ fun _ => rfl)
      pairs := keys.pairs.map (claimCheckpointUpdate_keeps _ fun _ => rfl) }
  | updateCheckpoints w => exact { keys with
      checkpointIds := keys.checkpointIds.map w.on_id
      checkpointBound := keys.checkpointBound.map w.on_id
      pairs := keys.pairs.map fun c => by simp }
  | insertResult r free => exact { keys with
      resultIds := keys.resultBound.distinct_append keys.resultIds rfl
      resultBound := keys.resultBound.append rfl
      runBound := keys.runBound.succ
      checkpointBound := keys.checkpointBound.succ
      resultKeys := by
        intro a ha b hb keyed same
        rcases List.mem_append.mp ha with oldA | newA <;>
          rcases List.mem_append.mp hb with oldB | newB
        · exact keys.resultKeys a oldA b oldB keyed same
        · rw [List.mem_singleton.mp newB] at same
          exact absurd same (free (same ▸ keyed) a oldA)
        · rw [List.mem_singleton.mp newA] at same keyed
          exact absurd same.symm (free keyed b oldB)
        · rw [List.mem_singleton.mp newA, List.mem_singleton.mp newB] }
  | _ => exact { keys with }

/-! ## A run, a checkpoint from step to step -/

/-- What became of a run. -/
inductive RunNext (s s' : State) (o : Op) (r : SecurityTestRun) : Prop
  | kept (mem : r ∈ s'.db.runs)
  | claimed (worker queue : String) (now expires : Timestamp)
      (op : o = .claimRun worker queue now expires) (managed : r.schedulerManaged = true)
      (queued : r.status = .queued) (mem : claimUpdate r worker s.nextToken now expires ∈ s'.db.runs)
  | updated (w : RunWrite) (op : o = .updateRun w) (target : r.id = w.target)
      (guard : RunWrite.guard r w = true) (mem : RunWrite.apply r w ∈ s'.db.runs)

theorem Change.run_next (keys : Keys s)
    (h : Change t i s o s') (mem : r ∈ s.db.runs) : RunNext s s' o r := by
  cases h with
  | insertRun q free => exact .kept (List.mem_append_left _ mem)
  | claimRun worker queue now expires q first =>
    obtain ⟨here, managed, _, queued⟩ := Database.firstClaimable_mem first
    have image := List.mem_map_of_mem (f := fun p : SecurityTestRun =>
      if p.id = q.id then claimUpdate q worker s.nextToken now expires else p) mem
    by_cases same : r.id = q.id
    · have eq : r = q := keys.runIds.eq_of_key mem here same
      subst eq
      exact .claimed worker queue now expires rfl managed queued (by simpa using image)
    · exact .kept (by simpa [same] using image)
  | updateRun w =>
    have image : w.on r ∈ (s.db.updateRun w).runs := List.mem_map_of_mem mem
    unfold RunWrite.on at image
    split at image
    · rename_i hit
      exact .updated w rfl hit.1 hit.2 image
    · exact .kept image
  | _ => exact .kept mem

/-- Every run goes on. -/
theorem Change.run_image (keys : Keys s)
    (h : Change t i s o s') (mem : r ∈ s.db.runs) :
    ∃ r' ∈ s'.db.runs, SameRun r r' := by
  cases h.run_next keys mem with
  | kept mem => exact ⟨r, mem, .refl r⟩
  | claimed worker queue now expires op managed queued mem =>
    exact ⟨_, mem, rfl, rfl, rfl, rfl, rfl, Nat.le_succ _⟩
  | updated w op target guard mem => exact ⟨_, mem, RunWrite.apply_same r w⟩

/-- What became of a checkpoint. -/
inductive CheckpointNext (s' : State) (o : Op) (c : SecurityExecutionCheckpoint) : Prop
  | kept (mem : c ∈ s'.db.checkpoints)
  | claimed (id run : ObjectId) (token : Token) (now : Timestamp)
      (op : o = .claimCheckpoint id run token now) (isId : c.id = id) (ofRun : c.runId = run)
      (pending : c.status = .pending) (mem : claimCheckpointUpdate c token now ∈ s'.db.checkpoints)
  | updated (w : CheckpointWrite) (op : o = .updateCheckpoints w)
      (guard : CheckpointWrite.guard c w = true) (mem : CheckpointWrite.apply c w ∈ s'.db.checkpoints)

theorem Change.checkpoint_next (h : Change t i s o s')
    {c : SecurityExecutionCheckpoint} (mem : c ∈ s.db.checkpoints) : CheckpointNext s' o c := by
  cases h with
  | upsertCheckpoint d free => exact .kept (List.mem_append_left _ mem)
  | claimCheckpoint id run token now =>
    have image := List.mem_map_of_mem (f := fun c : SecurityExecutionCheckpoint =>
      if Database.openCheckpoint id run c then claimCheckpointUpdate c token now else c) mem
    by_cases hit : Database.openCheckpoint id run c = true
    · have fields := hit
      simp only [Database.openCheckpoint, Bool.and_eq_true, beq_iff_eq] at fields
      exact .claimed id run token now rfl fields.1.1 fields.1.2 fields.2 (by simpa [hit] using image)
    · exact .kept (by simpa [hit] using image)
  | updateCheckpoints w =>
    have image : w.on c ∈ (s.db.updateCheckpoints w).checkpoints := List.mem_map_of_mem mem
    unfold CheckpointWrite.on at image
    split at image
    · rename_i hit
      exact .updated w rfl hit image
    · exact .kept image
  | _ => exact .kept mem

/-! ## Leases -/

/-- The lease tokens of the runs. -/
structure Leases (s : State) : Prop where
  bound : ∀ r ∈ s.db.runs, ∀ τ, r.leaseToken = some τ → τ < s.nextToken
  unique : ∀ r ∈ s.db.runs, ∀ q ∈ s.db.runs, ∀ τ, r.leaseToken = some τ → q.leaseToken = some τ →
    r.id = q.id
  active : ∀ r ∈ s.db.runs, r.leaseToken.isSome = true →
    r.schedulerManaged = true ∧ (r.status = .running ∨ r.status = .cancelRequested)
  dated : ∀ r ∈ s.db.runs, r.schedulerManaged = true →
    r.status = .running ∨ r.status = .cancelRequested →
    r.leaseToken.isSome = true ∧ r.leaseExpiresAt.isSome = true

/-- A lease token was there before, or was drawn by this claim. -/
theorem Change.token_origin (fresh : o.Fresh)
    (h : Change t i s o s') {r' : SecurityTestRun} (mem : r' ∈ s'.db.runs) {τ : Token}
    (token : r'.leaseToken = some τ) :
    (∃ r ∈ s.db.runs, r.id = r'.id ∧ r.leaseToken = some τ ∧ r.dispatchAttempt = r'.dispatchAttempt) ∨
    (τ = s.nextToken ∧ s'.nextToken = s.nextToken + 1 ∧ ∃ worker queue now expires r,
      o = .claimRun worker queue now expires ∧ s.db.firstClaimable queue i.chosen = some r ∧
      r' = claimUpdate r worker τ now expires) := by
  cases h with
  | insertRun r free =>
    rcases List.mem_append.mp mem with old | new
    · exact .inl ⟨r', old, rfl, token, rfl⟩
    · rw [List.mem_singleton.mp new, show r.leaseToken = none from FreshRun.unleased fresh] at token
      cases token
  | claimRun worker queue now expires r first =>
    obtain ⟨q, old, rfl⟩ := List.mem_map.mp mem
    split at token
    · cases token
      refine .inr ⟨rfl, rfl, worker, queue, now, expires, r, rfl, first, ?_⟩
      simp_all
    · rename_i other
      rw [if_neg other]
      exact .inl ⟨q, old, rfl, token, rfl⟩
  | updateRun w =>
    obtain ⟨q, old, rfl⟩ := List.mem_map.mp mem
    unfold RunWrite.on at token ⊢
    split at token
    · rename_i hit
      rw [if_pos hit]
      exact .inl ⟨q, old, (RunWrite.apply_id q w).symm, RunWrite.apply_leaseToken token,
        (RunWrite.apply_dispatchAttempt q w).symm⟩
    · rename_i miss
      rw [if_neg miss]
      exact .inl ⟨q, old, rfl, token, rfl⟩
  | _ => exact .inl ⟨r', mem, rfl, token, rfl⟩

theorem Change.nextToken_le (h : Change t i s o s') :
    s.nextToken ≤ s'.nextToken := by
  cases h <;> simp

/-- A run that carries a token is managed and active, after an update too. -/
theorem RunWrite.apply_active {w : RunWrite} (guard : RunWrite.guard r w = true)
    (active : r.leaseToken.isSome = true →
      r.schedulerManaged = true ∧ (r.status = .running ∨ r.status = .cancelRequested))
    (token : (apply r w).leaseToken.isSome = true) :
    (apply r w).schedulerManaged = true ∧
      ((apply r w).status = .running ∨ (apply r w).status = .cancelRequested) := by
  cases w with
  | dispatchFailed id token' retryable errorType now =>
    cases retryable <;> simp [apply, releaseLease] at token
  | _ => simp_all [apply, RunWrite.guard, releaseLease, pauseFields]

/-- A managed run that is active carries a dated lease, after an update too. -/
theorem RunWrite.apply_dated {w : RunWrite} (guard : RunWrite.guard r w = true)
    (dated : r.schedulerManaged = true → r.status = .running ∨ r.status = .cancelRequested →
      r.leaseToken.isSome = true ∧ r.leaseExpiresAt.isSome = true)
    (managed : (apply r w).schedulerManaged = true)
    (active : (apply r w).status = .running ∨ (apply r w).status = .cancelRequested) :
    (apply r w).leaseToken.isSome = true ∧ (apply r w).leaseExpiresAt.isSome = true := by
  rw [(apply_same r w).managed] at managed
  cases w with
  | dispatchFailed id token' retryable errorType now =>
    cases retryable <;> simp [apply, releaseLease] at active
  | finish id token' cancelled hosts now =>
    cases cancelled <;> simp [apply, releaseLease] at active
  | _ => simp_all [apply, RunWrite.guard, releaseLease, pauseFields]

theorem Leases.step (leases : Leases s)
    (fresh : o.Fresh) (h : Change t i s o s') : Leases s' where
  bound r' mem τ token := by
    rcases h.token_origin fresh mem token with ⟨r, old, _, held, _⟩ | ⟨rfl, next, _⟩
    · exact (leases.bound r old τ held).trans_le h.nextToken_le
    · rw [next]
      exact Nat.lt_succ_self _
  unique r' memR q' memQ τ tokenR tokenQ := by
    rcases h.token_origin fresh memR tokenR with ⟨r, oldR, idR, heldR, _⟩ | ⟨drawn, _, newR⟩ <;>
      rcases h.token_origin fresh memQ tokenQ with ⟨q, oldQ, idQ, heldQ, _⟩ | ⟨drawn', _, newQ⟩
    · exact idR.symm.trans ((leases.unique r oldR q oldQ τ heldR heldQ).trans idQ)
    · exact absurd (leases.bound r oldR τ heldR) (drawn' ▸ lt_irrefl _)
    · exact absurd (leases.bound q oldQ τ heldQ) (drawn ▸ lt_irrefl _)
    · obtain ⟨_, queue, _, _, r, op, first, rfl⟩ := newR
      obtain ⟨_, queue', _, _, q, op', first', rfl⟩ := newQ
      rw [op] at op'
      cases op'
      rw [first] at first'
      cases first'
      rfl
  active r' mem token := by
    cases h.run_origin mem with
    | kept mem => exact leases.active r' mem token
    | inserted r op eq =>
      subst op eq
      simp [show r.leaseToken = none from FreshRun.unleased fresh] at token
    | claimed worker queue now expires r op here managed queued eq =>
      subst eq
      exact ⟨managed, .inl rfl⟩
    | updated w r op here target guard eq =>
      subst eq
      exact RunWrite.apply_active guard (leases.active r here) token
  dated r' mem managed active := by
    cases h.run_origin mem with
    | kept mem => exact leases.dated r' mem managed active
    | inserted r op eq =>
      subst op eq
      rcases FreshRun.status fresh with ⟨_, preparing⟩ | ⟨unmanaged, _⟩
      · simp [preparing] at active
      · simp [unmanaged] at managed
    | claimed worker queue now expires r op here _ queued eq =>
      subst eq
      exact ⟨rfl, rfl⟩
    | updated w r op here target guard eq =>
      subst eq
      exact RunWrite.apply_dated guard (leases.dated r here) managed active

/-! ## Claims -/

/-- What a worker that was given a run knows of it, whatever has happened since. -/
structure Claims (s : State) : Prop where
  bound : ∀ w cl, (s.workers w).claimed = some cl → cl.token < s.nextToken
  once : ∀ w w' cl cl', (s.workers w).claimed = some cl → (s.workers w').claimed = some cl' →
    cl.token = cl'.token → w = w'
  holder : ∀ w cl, (s.workers w).claimed = some cl → ∀ r ∈ s.db.runs, r.leaseToken = some cl.token →
    r.id = cl.run.id ∧ r.dispatchAttempt = cl.run.dispatchAttempt
  run : ∀ w cl, (s.workers w).claimed = some cl → ∃ r ∈ s.db.runs, SameRun cl.run r
  attempt : ∀ w cl, (s.workers w).claimed = some cl → 1 ≤ cl.run.dispatchAttempt
  dispatches : ∀ w w' cl cl', (s.workers w).claimed = some cl → (s.workers w').claimed = some cl' →
    cl.run.id = cl'.run.id → cl.run.dispatchAttempt = cl'.run.dispatchAttempt → w = w'

/-- A dispatch was given its run before, or by this claim. -/
theorem Change.claimed_origin (h : Change t i s o s')
    {w : Nat} {cl : ClaimedRun} (claimed : (s'.workers w).claimed = some cl) :
    (s.workers w).claimed = some cl ∨
    (t.dispatch? = some w ∧ cl.token = s.nextToken ∧ s'.nextToken = s.nextToken + 1 ∧
      cl.run ∈ s'.db.runs ∧ ∃ worker queue now expires r, o = .claimRun worker queue now expires ∧
        s.db.firstClaimable queue i.chosen = some r ∧
        cl.run = claimUpdate r worker s.nextToken now expires) := by
  cases h with
  | claimRun worker queue now expires r first =>
    dsimp only [State.giveRun] at claimed
    split at claimed
    · rename_i own
      cases claimed
      refine .inr ⟨own, rfl, rfl, ?_, worker, queue, now, expires, r, rfl, first, rfl⟩
      refine List.mem_map.mpr ⟨r, (Database.firstClaimable_mem first).1, ?_⟩
      rw [if_pos rfl]
      rfl
    · exact .inl claimed
  | memory o v f own change =>
    refine .inl ?_
    by_cases here : w = v
    · subst here
      simp only [Function.update_self] at claimed
      cases change <;> exact claimed
    · simpa only [Function.update_of_ne here] using claimed
  | complete v k exception own =>
    refine .inl ?_
    by_cases here : w = v
    · subst here
      simp only [Function.update_self] at claimed
      exact claimed
    · simpa only [Function.update_of_ne here] using claimed
  | _ => exact .inl claimed

theorem Claims.step (keys : Keys s) (leases : Leases s)
    (claims : Claims s) (fresh : o.Fresh) (h : Change t i s o s') : Claims s' where
  bound w cl claimed := by
    rcases h.claimed_origin claimed with old | ⟨_, token, next, _⟩
    · exact (claims.bound w cl old).trans_le h.nextToken_le
    · rw [token, next]
      exact Nat.lt_succ_self _
  once w w' cl cl' claimed claimed' same := by
    rcases h.claimed_origin claimed with old | ⟨own, token, _⟩ <;>
      rcases h.claimed_origin claimed' with old' | ⟨own', token', _⟩
    · exact claims.once w w' cl cl' old old' same
    · exact absurd (claims.bound w cl old) (by rw [same, token']; exact lt_irrefl _)
    · exact absurd (claims.bound w' cl' old') (by rw [← same, token]; exact lt_irrefl _)
    · exact Option.some.inj (own.symm.trans own')
  holder w cl claimed r' mem token := by
    rcases h.claimed_origin claimed with old | ⟨_, drawn, _, _, _, queue, _, _, r, op, first, eq⟩ <;>
      rcases h.token_origin fresh mem token with ⟨q, oldQ, id, held, attempt⟩ | ⟨drawn', _, new⟩
    · rw [← id, ← attempt]
      exact claims.holder w cl old q oldQ held
    · exact absurd (claims.bound w cl old) (drawn' ▸ lt_irrefl _)
    · exact absurd (leases.bound q oldQ _ held) (drawn ▸ lt_irrefl _)
    · obtain ⟨_, queue', _, _, q, op', first', rfl⟩ := new
      rw [op] at op'
      cases op'
      rw [first] at first'
      cases first'
      rw [eq]
      exact ⟨rfl, rfl⟩
  run w cl claimed := by
    rcases h.claimed_origin claimed with old | ⟨_, _, _, mem, _⟩
    · obtain ⟨r, mem, same⟩ := claims.run w cl old
      obtain ⟨r', mem', later⟩ := h.run_image keys mem
      exact ⟨r', mem', same.trans later⟩
    · exact ⟨cl.run, mem, .refl _⟩
  attempt w cl claimed := by
    rcases h.claimed_origin claimed with old | ⟨_, _, _, _, _, _, _, _, r, _, _, eq⟩
    · exact claims.attempt w cl old
    · rw [eq]
      exact Nat.succ_le_succ (Nat.zero_le _)
  dispatches w w' cl cl' claimed claimed' same attempts := by
    -- a claim dispatches its run once more than every claim before it
    have later : ∀ v (cl₀ cl₁ : ClaimedRun) r, (s.workers v).claimed = some cl₀ → r ∈ s.db.runs →
        cl₁.run.id = r.id → cl₁.run.dispatchAttempt = r.dispatchAttempt + 1 →
        cl₀.run.id = cl₁.run.id → cl₀.run.dispatchAttempt < cl₁.run.dispatchAttempt := by
      intro v cl₀ cl₁ r old mem id attempt same
      obtain ⟨q, memQ, sameQ⟩ := claims.run v cl₀ old
      have eq : q = r := keys.runIds.eq_of_key memQ mem (sameQ.id.trans (same.trans id))
      have le := sameQ.dispatched
      rw [eq] at le
      omega
    rcases h.claimed_origin claimed with old | ⟨own, _, _, _, _, _, _, _, r, _, first, eq⟩ <;>
      rcases h.claimed_origin claimed' with old' | ⟨own', _, _, _, _, _, _, _, r', _, first', eq'⟩
    · exact claims.dispatches w w' cl cl' old old' same attempts
    · have lt := later w cl cl' r' old (Database.firstClaimable_mem first').1 (by rw [eq']; rfl)
        (by rw [eq']; rfl) same
      omega
    · have lt := later w' cl' cl r old' (Database.firstClaimable_mem first).1 (by rw [eq]; rfl)
        (by rw [eq]; rfl) same.symm
      omega
    · exact Option.some.inj (own.symm.trans own')

/-! ## Every reachable state -/

theorem Op.fresh_of_read (h : o.isRead = true) : o.Fresh := by
  cases o <;> trivial

theorem RequeueOp.fresh (h : RequeueOp o) : o.Fresh := by
  cases h with
  | read h => exact Op.fresh_of_read h
  | _ => trivial

theorem RecoverOp.fresh {o : Op} (h : RecoverOp o) : o.Fresh := by
  cases h with
  | requeue h => exact h.fresh
  | upsert c fresh => exact fresh
  | _ => trivial

theorem ResumeOp.fresh (h : ResumeOp o) : o.Fresh := by
  cases h with
  | read h => exact Op.fresh_of_read h
  | _ => trivial

theorem CallOp.fresh {o : Op} (h : CallOp o) : o.Fresh := by
  cases h with
  | recover h => exact h.fresh
  | resume h => exact h.fresh
  | insertRun r fresh => exact fresh
  | _ => trivial

theorem ClaimedOp.fresh {claimed : ClaimedRun} (h : ClaimedOp claimed o) : o.Fresh := by
  cases h with
  | failure h =>
    cases h with
    | read h => exact Op.fresh_of_read h
    | _ => trivial
  | _ => trivial

theorem DispatchOp.fresh (h : DispatchOp o) : o.Fresh := by
  cases h with
  | loop cl h =>
    cases h with
    | claimed h => exact h.fresh
    | submit id => trivial
  | settle cl h =>
    cases h with
    | claimed h => exact h.fresh
    | _ => trivial
  | startExecution job => trivial

theorem WorkerOp.fresh (h : WorkerOp o) : o.Fresh := by
  cases h with
  | recover h => exact h.fresh
  | dispatch h => exact h.fresh
  | claimRun => trivial

theorem PoolThreadOp.fresh {job : Job} {id : ObjectId} (h : PoolThreadOp job id o) :
    o.Fresh := by
  cases h with
  | replay h =>
    cases h with
    | work h =>
      cases h with
      | read h => exact Op.fresh_of_read h
      | _ => trivial
    | _ => trivial
  | complete => trivial

theorem HeartbeatOp.fresh {job : Job} (h : HeartbeatOp job o) : o.Fresh := by
  cases h with
  | read h => exact Op.fresh_of_read h
  | _ => trivial

/-- What every thread starts with inserts fresh documents only. -/
theorem Started.fresh {d : Decision} {p : Code Unit}
    (h : Started s t d p s') : p.Uses Op.Fresh := by
  cases h with
  | call n r => exact (Request.code_uses r).mono fun _ => CallOp.fresh
  | worker w setup => exact (runOnce_uses setup).mono fun _ => WorkerOp.fresh
  | pool w k job slot => exact (poolThread_uses job _).mono fun _ => PoolThreadOp.fresh
  | heartbeat w job => exact (heartbeatThread_uses job).mono fun _ => HeartbeatOp.fresh

/-- Keys, leases and claims together. -/
structure Consistent (s : State) : Prop where
  keys : Keys s
  leases : Leases s
  claims : Claims s

theorem Consistent.step (h : Consistent s)
    (fresh : o.Fresh) (change : Change t i s o s') : Consistent s' :=
  ⟨h.keys.step change, h.leases.step fresh change, h.claims.step h.keys h.leases fresh change⟩

/-- A state with the same collections, tokens and claims. -/
theorem Consistent.congr (h : Consistent s) (runs : s'.db.runs = s.db.runs)
    (checkpoints : s'.db.checkpoints = s.db.checkpoints) (results : s'.db.results = s.db.results)
    (nextId : s'.db.nextId = s.db.nextId) (nextToken : s'.nextToken = s.nextToken)
    (claimed : ∀ w, (s'.workers w).claimed = (s.workers w).claimed) : Consistent s' := by
  obtain ⟨keys, leases, claims⟩ := h
  refine ⟨?_, ?_, ?_⟩
  · constructor <;> simp only [runs, checkpoints, results, nextId]
    exacts [keys.runIds, keys.runBound, keys.checkpointIds, keys.checkpointBound, keys.pairs,
      keys.resultIds, keys.resultBound, keys.resultKeys]
  · constructor <;> simp only [runs, nextToken]
    exacts [leases.bound, leases.unique, leases.active, leases.dated]
  · constructor <;> simp only [runs, nextToken, claimed]
    exacts [claims.bound, claims.once, claims.holder, claims.run, claims.attempt, claims.dispatches]

theorem Consistent.fresh (snapshots : List RequestSnapshot) (relations : List ParameterRelation) :
    Consistent (fresh snapshots relations) := by
  refine ⟨?_, ?_, ?_⟩ <;> constructor <;> simp [ApiManger.Scheduler.fresh, Distinct, Below]

theorem uses_fresh
    (run : Run g (initial snapshots relations) c) (t : Tid) (p : Code Unit)
    (code : c.threads t = some p) : p.Uses Op.Fresh :=
  run.uses (fun _ _ _ _ _ code => (startThread_cases code).fresh) (fun _ _ code => nomatch code) t p code

/-- The same collections, tokens and claims, whatever else has changed. -/
structure SameStore (s s' : State) : Prop where
  runs : s'.db.runs = s.db.runs
  checkpoints : s'.db.checkpoints = s.db.checkpoints
  results : s'.db.results = s.db.results
  nextId : s'.db.nextId = s.db.nextId
  nextToken : s'.nextToken = s.nextToken
  claimed : ∀ w, (s'.workers w).claimed = (s.workers w).claimed

theorem SameStore.refl (s : State) : SameStore s s := ⟨rfl, rfl, rfl, rfl, rfl, fun _ => rfl⟩

/-- A start changes a slot of the dispatch only. -/
theorem Started.sameStore {d : Decision} {p : Code Unit}
    (h : Started s t d p s') : SameStore s s' := by
  cases h with
  | pool w k job slot =>
    refine ⟨rfl, rfl, rfl, rfl, rfl, fun v => ?_⟩
    by_cases here : v = w <;> simp [Function.update, here, Dispatch.setSlot]
  | _ => exact .refl s

theorem environment_sameStore {d : Decision} (h : environment d s = some s') :
    SameStore s s' := by
  cases d with
  | stop w =>
    cases h
    exact ⟨rfl, rfl, rfl, rfl, rfl, fun v => by
      by_cases here : v = w <;> simp [Function.update, here]⟩
  | elapse | snapshots => cases h; exact ⟨rfl, rfl, rfl, rfl, rfl, fun _ => rfl⟩
  | _ => cases h

theorem Consistent.sameStore (h : Consistent s) (same : SameStore s s') :
    Consistent s' :=
  h.congr same.runs same.checkpoints same.results same.nextId same.nextToken same.claimed

/-- One step of the machine changes the store by one operation, or not at all. -/
theorem store_step {d : Config scheduler} {l : Label scheduler}
    (admitted : g.admits c l = true) (step : c.next l = some d) :
    SameStore c.state d.state ∨
      ∃ t o i, g.op t o (.op i) c.state = true ∧ Change t i c.state o d.state := by
  cases Config.next_cases step with
  | start idle code => exact .inl (startThread_cases code).sameStore
  | environment moved => exact .inl (environment_sameStore moved)
  | @step t input o k r s code exec =>
    cases input with
    | op i =>
      rcases exec_cases exec with ⟨_, _, _, rfl⟩ | ⟨done, _⟩
      · exact .inl (.refl _)
      · exact .inr ⟨t, o, i, by simpa [Guard.admits, code] using admitted, post_change done⟩
    | _ => cases exec

/-- An invariant of the store over consistent states, along every run. -/
theorem storeInvariant (Inv : State → Prop)
    (change : ∀ t o i s s', Consistent s → o.Fresh → g.op t o (.op i) s = true → Change t i s o s' →
      Inv s → Inv s')
    (quiet : ∀ s s', SameStore s s' → Inv s → Inv s') {d : Config scheduler}
    {g₀ : Guard scheduler} (reached : Run g₀ (initial snapshots relations) c) (run : Run g c d)
    (consistent : Consistent c.state) (h : Inv c.state) : Consistent d.state ∧ Inv d.state := by
  refine Run.invariant (fun s => Consistent s ∧ Inv s) (fun _ => Op.Fresh) ?_ ?_ ?_
    (uses_fresh reached) run ⟨consistent, h⟩
  · intro t d s p s' code
    have started := startThread_cases code
    have same := started.sameStore
    exact ⟨started.fresh, fun _ h => ⟨h.1.sameStore same, quiet s s' same h.2⟩⟩
  · intro t o d s r s' fresh admitted exec h
    cases d with
    | op i =>
      rcases exec_cases exec with ⟨_, _, _, rfl⟩ | ⟨done, _⟩
      · exact h
      · have done := post_change done
        exact ⟨h.1.step fresh done, change t o i s s' h.1 fresh admitted done h.2⟩
    | _ => cases exec
  · intro d s s' moved h
    have same := environment_sameStore moved
    exact ⟨h.1.sameStore same, quiet s s' same h.2⟩

/-- **Consistency.** Keys, leases and claims hold in every reachable state. -/
theorem consistent_of_run
    (run : Run g (initial snapshots relations) c) : Consistent c.state := by
  have here : Run g (initial snapshots relations) (initial snapshots relations) := .refl
  exact (storeInvariant (fun _ => True) (fun _ _ _ _ _ _ _ _ _ h => h) (fun _ _ _ h => h) here run
    (.fresh snapshots relations) trivial).1

end ApiManger.Scheduler
