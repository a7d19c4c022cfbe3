import ApiManger.Scheduler.HostStops

/-!
# Host stops: the threads

Every thread of the scheduler comes to its operations in an orderly way: a worker
writes `host_state` of the run it claimed last, for the last time when all of its
futures have finished. So the outcomes are counted once along every run.
-/

namespace ApiManger.Scheduler
open Python Store Execution Interleaving Collection

/-- What the threads rely on. -/
abbrev hostContract : Contract watched where
  guard := successive.both hostsInStep
  known s := Consistent s.1
  inv := Watched
  guar := WatchStep
  before t s := match t with
    | .worker w => (s.1.workers w).claimed = none
    | _ => True

section
variable {t : Tid} {o : Op} {φ : State × Watch → Prop}

/-- One operation of an orderly thread, lost or carried out. -/
theorem keeps_orderly {ψ : Except PyError (Ret o) → State × Watch → Prop}
    (orderly : ∀ s, Watched s → φ s → Orderly t s o)
    (lost : o.isStore = true → ∀ s, Watched s → φ s → ψ (.error driverError) s)
    (done : ∀ s i s₁, Consistent s.1 → Watched s → φ s → post t i s.1 o = some s₁ →
      ψ (reply t i s.1 o) (s₁, s.2.next t o i s.1) ∧
        (o.isStore = true → ψ (.error driverError) (s₁, s.2.next t o i s.1))) :
    hostContract.Keeps t φ o ψ := by
  refine keeps_alongside ?_ ?_
  · intro store s i fault known inv now
    have same : Watch.after t o (.op i) s.1 s = s := by simp [Watch.after, store, fault]
    rw [same]
    exact ⟨inv, (inv.quiet (some t) rfl rfl rfl).2, lost store s inv now⟩
  · intro s i s₁ known _ inv now admitted arrived posted
    have moved : Watch.after t o (.op i) s.1 (s₁, s.2) = (s₁, s.2.next t o i s.1) := by
      simp only [Watch.after]
      rw [if_neg fun lost => arrived lost.1 lost.2]
    rw [moved]
    obtain ⟨inv', guar⟩ := orderly_step inv known (orderly s inv now) admitted posted
    exact ⟨inv', guar, done s i s₁ known inv now posted⟩

/-- An operation that leaves the assertion of its thread. -/
theorem keeps_kept (orderly : ∀ s, Watched s → φ s → Orderly t s o)
    (kept : ∀ s i s₁, Consistent s.1 → φ s → post t i s.1 o = some s₁ → φ (s₁, s.2.next t o i s.1)) :
    hostContract.Keeps t φ o fun _ => φ := by
  refine keeps_orderly orderly (fun _ _ _ now => now) fun s i s₁ known _ now posted => ?_
  exact ⟨kept s i s₁ known now posted, fun _ => kept s i s₁ known now posted⟩

/-! ## Operations anybody may come to -/

theorem orderly_read (read : o.isRead = true) (s : State × Watch) : Orderly t s o := by
  cases o <;> trivial

/-- An update that does not write `host_state`. -/
theorem orderly_write {v : RunWrite} (plain : v.setsHosts = false) (s : State × Watch) :
    Orderly t s (.updateRun v) := fun sets => absurd (plain.symm.trans sets) Bool.false_ne_true

theorem RequeueOp.orderly (h : RequeueOp o) (s : State × Watch) : Orderly t s o := by
  cases h with
  | read h => exact orderly_read h s
  | releaseHeld | releaseAll => trivial
  | _ => exact orderly_write rfl s

theorem RecoverOp.orderly (h : RecoverOp o) (s : State × Watch) : Orderly t s o := by
  cases h with
  | requeue h => exact h.orderly s
  | upsert | cancelOpen => trivial
  | _ => exact orderly_write rfl s

theorem CallOp.orderly (h : CallOp o) (s : State × Watch) : Orderly t s o := by
  cases h with
  | recover h => exact h.orderly s
  | resume h =>
    cases h with
    | read h => exact orderly_read h s
    | syncRelations => trivial
    | _ => exact orderly_write rfl s
  | uuid4 => trivial
  | insertRun r fresh => exact fresh
  | _ => exact orderly_write rfl s

theorem HeartbeatOp.orderly {job : Job} (h : HeartbeatOp job o) (s : State × Watch) : Orderly t s o := by
  cases h with
  | read h => exact orderly_read h s
  | heartbeat => exact orderly_write rfl s
  | lost => trivial

theorem FailureOp.orderly {cl : ClaimedRun} (h : FailureOp cl o) (s : State × Watch) : Orderly t s o := by
  cases h with
  | read h => exact orderly_read h s
  | dispatchFailed => exact orderly_write rfl s
  | _ => trivial

end

/-! ## Pool threads -/

section
variable {w k : Nat} {job : Job} {id : ObjectId} {o : Op}

/-- A pool thread at work on a checkpoint of the job. -/
structure AtReplay (w k : Nat) (job : Job) (s : State × Watch) : Prop where
  running : Running w k s.1
  job : (s.1.workers w).job = some job

theorem AtReplay.stable : hostContract.Stable (.pool w k) (AtReplay w k job) := by
  intro u ne s s' _ _ _ _ step now
  exact ⟨step.running w k ne now.running, step.started w job now.job⟩

theorem PoolOp.orderly (h : PoolOp job id true o) {s : State × Watch} (now : AtReplay w k job s) :
    Orderly (.pool w k) s o := by
  cases h with
  | read h => exact orderly_read h s
  | acquire host => exact ⟨w, k, rfl, now.running⟩
  | recordOutcome host evidence => exact ⟨w, k, job, rfl, now.running, now.job⟩
  | _ => trivial

/-- Only its own end takes a pool thread from its work. -/
theorem Change.running_kept {t : Tid} {i : Input} {s s' : State} (h : Change t i s o s')
    (goesOn : ∀ e, o ≠ .complete e) (running : Running w k s) : Running w k s' := by
  obtain ⟨slot, found, at_work⟩ := running
  cases h with
  | claimRun worker queue now expires =>
    refine ⟨slot, ?_, at_work⟩
    dsimp only [State.giveRun]
    split <;> exact found
  | memory o v f own change =>
    by_cases here : w = v
    · subst here
      simp only [Running, Function.update_self]
      cases change with
      | submit c =>
        refine ⟨slot, ?_, at_work⟩
        exact List.getElem?_append_left (List.getElem?_eq_some_iff.mp found).1 ▸ found
      | collect => exact ⟨slot, by simp [Dispatch.collect, found, at_work], at_work⟩
      | _ => exact ⟨slot, found, at_work⟩
    · exact ⟨slot, by simpa only [Function.update_of_ne here] using found, at_work⟩
  | complete v k' exception own => exact (goesOn exception rfl).elim
  | _ => exact ⟨slot, found, at_work⟩

theorem ReplayOp.orderly (h : ReplayOp job id o) {s : State × Watch} (now : AtReplay w k job s) :
    Orderly (.pool w k) s o := by
  cases h with
  | work h => exact h.orderly now
  | _ => trivial

theorem ReplayOp.not_complete (h : ReplayOp job id o) (e : Option PyError) : o ≠ .complete e := by
  rintro rfl
  cases h with
  | work h =>
    cases h with
    | read h => cases h

theorem ReplayOp.not_start (h : ReplayOp job id o) (job' : Job) : o ≠ .startExecution job' := by
  rintro rfl
  cases h with
  | work h =>
    cases h with
    | read h => cases h

theorem poolThread_safe (w k : Nat) (job : Job) (id : ObjectId) :
    hostContract.Safe₀ (.pool w k) (AtReplay w k job) (poolThread job id) := by
  have work : hostContract.Safe (.pool w k) (AtReplay w k job) (executeCheckpoint job id)
      (fun _ => AtReplay w k job) fun _ => AtReplay w k job := by
    refine .of_uses (executeCheckpoint_uses job id) AtReplay.stable fun o op => ?_
    refine keeps_kept (fun s _ now => op.orderly now) fun s i s₁ _ now posted => ?_
    have change := post_change posted
    exact ⟨change.running_kept op.not_complete now.running, (change.job_eq op.not_start w).trans now.job⟩
  refine .bind (Q := fun _ _ => True) (.handle (E := fun _ => AtReplay w k job) ?_ fun e => ?_) fun exception => ?_
  · exact work.bind fun _ => .ret fun _ _ _ _ => trivial
  · exact .ret fun _ _ _ _ => trivial
  · refine .perform (fun _ => .true _) (fun _ => .true _) (keeps_orderly (fun _ _ _ => trivial) ?_ ?_)
    · exact fun _ _ _ _ => trivial
    · intro s i s₁ _ _ _ _
      cases reply (.pool w k) i s.1 (.complete exception) <;> exact ⟨trivial, fun _ => trivial⟩

end

/-! ## Threads without an assertion -/

section
variable {t : Tid} {P : Op → Prop}

theorem orderly_safe {p : Code Unit} (uses : p.Uses P) (orderly : ∀ o, P o → ∀ s, Orderly t s o) :
    hostContract.Safe₀ t (fun _ => True) p := by
  have stable : hostContract.Stable t fun _ => True := fun _ _ _ _ _ _ _ _ _ _ => trivial
  refine .of_uses uses stable fun o op => ?_
  exact keeps_kept (fun s _ _ => orderly o op s) fun _ _ _ _ _ _ => trivial

end

/-! ## Workers -/

section
variable {w : Nat} {cl : ClaimedRun} {o : Op}

def Claimed (w : Nat) (cl : ClaimedRun) (s : State × Watch) : Prop := (s.1.workers w).claimed = some cl

/-- The worker has claimed the run, which is not done, and has got as far as this job. -/
structure AtWork (w : Nat) (cl : ClaimedRun) (job : Option Job) (s : State × Watch) : Prop where
  claimed : Claimed w cl s
  job : (s.1.workers w).job = job
  open_ : Open w cl s

theorem Claimed.stable : hostContract.Stable (.worker w) (Claimed w cl) := by
  intro u ne s s' _ _ _ _ step now
  exact (step.claimed w ne).trans now

theorem AtWork.stable {job : Option Job} : hostContract.Stable (.worker w) (AtWork w cl job) := by
  intro u ne s s' _ _ _ _ step now
  refine ⟨(step.claimed w ne).trans now.claimed, (step.job w ne).trans now.job, fun held r mem id done => ?_⟩
  have other : ∀ v, u = some (.worker v) → v ≠ w := by
    rintro v rfl rfl
    exact ne rfl
  have held : s.2.holder cl.run.id = some w := by
    rcases step.holder cl.run.id with same | ⟨v, mine, now⟩
    · exact same ▸ held
    · rw [held] at now
      exact absurd (Option.some.inj now).symm (other v mine)
  rcases step.done r mem done with ⟨q, memQ, same, doneQ⟩ | ⟨v, mine, holds⟩
  · exact now.open_ held q memQ (same.trans id) doneQ
  · rw [id, held] at holds
    exact other v mine (Option.some.inj holds).symm

theorem ClaimedOp.not_claim (h : ClaimedOp cl o) (worker queue : String) (now expires : Timestamp) :
    o ≠ .claimRun worker queue now expires := by
  rintro rfl
  cases h with
  | failure h =>
    cases h with
    | read h => cases h

theorem ClaimedOp.not_start (h : ClaimedOp cl o) (job : Job) : o ≠ .startExecution job := by
  rintro rfl
  cases h with
  | failure h =>
    cases h with
    | read h => cases h

theorem ClaimedOp.not_record (h : ClaimedOp cl o) (host : String) (evidence : Dict) :
    o ≠ .recordOutcome host evidence := by
  rintro rfl
  cases h with
  | failure h =>
    cases h with
    | read h => cases h

/-- None of them closes a run as done. -/
theorem ClaimedOp.not_done (h : ClaimedOp cl o) {v : RunWrite} (op : o = .updateRun v)
    (r : SecurityTestRun) (done : (RunWrite.apply r v).status = .done) : r.status = .done := by
  subst op
  by_cases plain : v.setsHosts = false
  · exact (RunWrite.apply_keepsHosts plain).2 done
  · cases h with
    | syncCounts => exact done
    | pauseAuth => cases done
    | failure h =>
      cases h with
      | read h => cases h
      | dispatchFailed => exact absurd rfl plain
    | _ => exact absurd rfl plain

theorem ClaimedOp.orderly (h : ClaimedOp cl o) {job : Option Job} {s : State × Watch}
    (now : AtWork w cl job s) : Orderly (.worker w) s o := by
  cases h with
  | failure h => exact h.orderly s
  | syncCounts => exact fun _ => ⟨w, cl, rfl, now.claimed, rfl, now.open_⟩
  | pauseAuth => exact fun _ => ⟨w, cl, rfl, now.claimed, rfl, trivial⟩
  | heartbeat | pauseClaimed | authReady | stopRequeue => exact orderly_write rfl s
  | _ => trivial

/-- A run stays open where it is claimed by nobody else and closed by nobody. -/
theorem Open.own {t : Tid} {i : Input} {s : State × Watch} {s₁ : State} (open_ : Open w cl s)
    (change : Change t i s.1 o s₁) (fresh : o.Fresh)
    (notDone : ∀ v r, o = .updateRun v → (RunWrite.apply r v).status = .done → r.status = .done) :
    Open w cl (s₁, s.2) := by
  intro held r' mem id done
  cases change.run_origin mem with
  | kept mem => exact open_ held r' mem id done
  | inserted r op eq free =>
    subst op eq
    rcases FreshRun.status fresh with ⟨_, status⟩ | ⟨_, status⟩ <;> exact nomatch status.symm.trans done
  | claimed worker queue now expires r op mem managed queued eq =>
    subst eq
    cases done
  | updated v r op old target guard eq =>
    subst eq
    rw [RunWrite.apply_id] at id
    exact open_ held r old id (notDone v r op done)

theorem AtWork.own (h : ClaimedOp cl o) {job : Option Job} {s : State × Watch} {i : Input} {s₁ : State}
    (now : AtWork w cl job s) (posted : post (.worker w) i s.1 o = some s₁) :
    AtWork w cl job (s₁, s.2.next (.worker w) o i s.1) := by
  have change := post_change posted
  rw [Watch.next_other _ h.not_claim h.not_record]
  refine ⟨(change.claimed_eq h.not_claim w).trans now.claimed, (change.job_eq h.not_start w).trans now.job, ?_⟩
  exact now.open_.own change h.fresh fun v r op => h.not_done op r

theorem claimedOp_safe {α : Type} {p : Code α} {job : Option Job} (uses : p.Uses (ClaimedOp cl)) :
    hostContract.Safe (.worker w) (AtWork w cl job) p (fun _ => AtWork w cl job) fun _ => Claimed w cl := by
  refine Contract.Safe.weaken (φ := AtWork w cl job) (E := fun _ => AtWork w cl job) ?_
    (fun _ _ _ now => now) (fun _ _ _ _ now => now) fun _ _ _ _ now => now.claimed
  refine .of_uses uses AtWork.stable fun _ op => ?_
  exact keeps_kept (fun _ _ now => op.orderly now) fun _ _ _ _ now posted => now.own op posted

/-- The loop that submits the checkpoints. -/
theorem loopOp_safe {α : Type} {p : Code α} {job : Option Job} (uses : p.Uses (LoopOp cl)) :
    hostContract.Safe (.worker w) (AtWork w cl job) p (fun _ => AtWork w cl job) fun _ => Claimed w cl := by
  refine Contract.Safe.weaken (φ := AtWork w cl job) (E := fun _ => AtWork w cl job) ?_
    (fun _ _ _ now => now) (fun _ _ _ _ now => now) fun _ _ _ _ now => now.claimed
  refine .of_uses uses AtWork.stable fun o op => ?_
  cases op with
  | claimed op =>
    exact keeps_kept (fun _ _ now => op.orderly now) fun _ _ _ _ now posted => now.own op posted
  | submit id =>
    refine keeps_kept (fun _ _ now => ⟨w, cl, rfl, now.claimed, now.open_⟩) fun s i s₁ _ now posted => ?_
    have change := post_change posted
    refine ⟨?_, ?_, ?_⟩
    · exact (change.claimed_eq (fun _ _ _ _ op => by cases op) w).trans now.claimed
    · exact (change.job_eq (fun _ op => by cases op) w).trans now.job
    · exact now.open_.own change trivial fun v r op => by cases op

/-- A single operation that leaves the claim. -/
theorem late_keeps (orderly : ∀ s, Orderly (.worker w) s o)
    (notClaim : ∀ worker queue now expires, o ≠ .claimRun worker queue now expires) :
    hostContract.Keeps (.worker w) (Claimed w cl) o fun _ => Claimed w cl :=
  keeps_kept (fun s _ _ => orderly s) fun _ _ _ _ now posted =>
    ((post_change posted).claimed_eq notClaim w).trans now

theorem failureOp_safe {α : Type} {p : Code α} (uses : p.Uses (FailureOp cl)) :
    hostContract.Safe (.worker w) (Claimed w cl) p (fun _ => Claimed w cl) fun _ => Claimed w cl :=
  .of_uses uses Claimed.stable fun _ op => late_keeps op.orderly (ClaimedOp.failure op).not_claim

theorem closeHeartbeat_safe : hostContract.Safe (.worker w) (Claimed w cl) closeHeartbeat
    (fun _ => Claimed w cl) fun _ => Claimed w cl :=
  .of_uses (P := fun o => o = .closeHeartbeat) (.perform rfl) Claimed.stable fun o op =>
    late_keeps (by subst op; exact fun _ => trivial) (by subst op; exact fun _ _ _ _ op => by cases op)

/-- Every future of the job has finished. -/
structure Settling (w : Nat) (job : Job) (s : State × Watch) : Prop where
  work : AtWork w job.claimed (some job) s
  joined : Joined (s.1.workers w)

/-- The coordinator has given away its hosts. -/
structure Stored (w : Nat) (job : Job) (hosts : List HostState) (s : State × Watch) : Prop where
  settling : Settling w job s
  perm : hosts.Perm (s.1.workers w).hosts

theorem Settling.stable {job : Job} : hostContract.Stable (.worker w) (Settling w job) := by
  intro u ne s s' known known' inv inv' step now
  exact ⟨AtWork.stable u ne s s' known known' inv inv' step now.work, (step.joined w ne now.joined).1⟩

theorem Stored.stable {job : Job} {hosts : List HostState} :
    hostContract.Stable (.worker w) (Stored w job hosts) := by
  intro u ne s s' known known' inv inv' step now
  refine ⟨Settling.stable u ne s s' known known' inv inv' step now.settling, ?_⟩
  rw [(step.joined w ne now.settling.joined).2]
  exact now.perm

/-- What a worker does to the store before it closes its run. -/
inductive CountOp (cl : ClaimedRun) : Op → Prop
  | read {o : Op} (h : o.isRead = true) : CountOp cl o
  | syncCounts (counts : Counts) (hosts : List HostState) (now : Timestamp) :
      CountOp cl (.updateRun (.syncCounts cl.run.id counts hosts now))
  | cancelOpen (reason : String) (now : Timestamp) :
      CountOp cl (.updateCheckpoints (.cancelOpen cl.run.id reason now))

theorem Settling.keeps {job : Job} (op : CountOp job.claimed o) :
    hostContract.Keeps (.worker w) (Settling w job) o fun _ => Settling w job := by
  cases op with
  | read h =>
    refine keeps_kept (fun s _ _ => orderly_read h s) fun s i s₁ _ now posted => ?_
    have work := now.work.own (claimedOp_read _ h) posted
    obtain rfl := post_read h posted
    exact ⟨work, now.joined⟩
  | syncCounts counts hosts now =>
    refine keeps_kept (fun s _ now => ClaimedOp.orderly (.syncCounts ..) now.work) fun s i s₁ _ now posted => ?_
    cases posted
    exact ⟨now.work.own (.syncCounts ..) rfl, now.joined⟩
  | cancelOpen reason now =>
    refine keeps_kept (fun _ _ _ => trivial) fun s i s₁ _ now posted => ?_
    cases posted
    exact ⟨⟨now.work.claimed, now.work.job, now.work.open_⟩, now.joined⟩

theorem countOp_safe {α : Type} {p : Code α} {job : Job} (uses : p.Uses (CountOp job.claimed)) :
    hostContract.Safe (.worker w) (Settling w job) p (fun _ => Settling w job) fun _ => Claimed w job.claimed := by
  refine Contract.Safe.weaken (φ := Settling w job) (E := fun _ => Settling w job) ?_
    (fun _ _ _ now => now) (fun _ _ _ _ now => now) fun _ _ _ _ now => now.work.claimed
  exact .of_uses uses Settling.stable fun _ op => Settling.keeps op

theorem hostState_safe {job : Job} : hostContract.Safe (.worker w) (Settling w job) hostState
    (fun hosts => Stored w job hosts) fun _ => Claimed w job.claimed := by
  refine .perform (fun _ => Stored.stable) (fun _ => Claimed.stable) ?_
  refine keeps_orderly (fun _ _ _ => trivial) (fun store => by cases store) fun s i s₁ _ _ now posted => ?_
  cases posted
  exact ⟨⟨now, List.perm_insertionSort ..⟩, fun store => by cases store⟩

/-- The final write. -/
theorem settleFinal_safe (job : Job) (cancelled : Bool) :
    hostContract.Safe (.worker w) (Settling w job) (settleFinal job cancelled)
      (fun _ => Claimed w job.claimed) fun _ => Claimed w job.claimed := by
  have read : ∀ o : Op, o.isRead = true → CountOp job.claimed o := fun _ => .read
  refine .bind (countOp_safe (.when (.bind (.perform (read _ rfl)) fun _ => .perform (.cancelOpen ..)))) fun _ => ?_
  refine .bind (countOp_safe (syncCounts_uses read _ .syncCounts)) fun _ => ?_
  refine .bind hostState_safe fun hosts => ?_
  refine .bind (Q := fun _ => Stored w job hosts) ?_ fun now => ?_
  · refine .perform (fun _ => Stored.stable) (fun _ => Claimed.stable) ?_
    refine keeps_orderly (fun _ _ _ => trivial) (fun store => by cases store) fun s i s₁ _ _ now posted => ?_
    cases posted
    exact ⟨now, fun store => by cases store⟩
  refine .bind (Q := fun _ => Claimed w job.claimed) ?_ fun _ => ?_
  · refine .perform (fun _ => Claimed.stable) (fun _ => Claimed.stable) ?_
    refine keeps_orderly ?_ (fun _ _ _ now => now.settling.work.claimed) fun s i s₁ _ _ now posted => ?_
    · intro s _ now _
      refine ⟨w, job.claimed, rfl, now.settling.work.claimed, rfl, ?_, now.settling.joined, now.perm⟩
      rw [now.settling.work.job]
      rfl
    · cases posted
      exact ⟨now.settling.work.claimed, fun _ => now.settling.work.claimed⟩
  · refine .bind (failureOp_safe (.when ?_)) fun _ => .ret fun _ _ _ now => now
    exact syncParameterRelationRunState_uses (fun _ => .read) _ _ _ .syncRelations

theorem settleRun_safe (job : Job) :
    hostContract.Safe (.worker w) (Settling w job) (settleRun job)
      (fun _ => Claimed w job.claimed) fun _ => Claimed w job.claimed := by
  have read : ∀ o : Op, o.isRead = true → CountOp job.claimed o := fun _ => .read
  refine .bind (countOp_safe (anyEventSet_uses read _)) fun stopped => .ite (fun _ => ?_) fun _ => ?_
  · refine (claimedOp_safe (settleStopped_uses job)).weaken (fun _ _ _ now => now.work)
      (fun _ _ _ _ now => now.claimed) fun _ _ _ _ now => now
  have pausing : authFailed.Uses (CountOp job.claimed) := by
    refine .bind (.perform (read _ rfl)) fun auth => .ite ?_ .ret
    exact .bind (.perform (read _ rfl)) fun _ => .ret
  refine .bind (countOp_safe pausing) fun pausing => .ite (fun _ => ?_) fun _ => ?_
  · refine (claimedOp_safe (settleAuthPause_uses job)).weaken (fun _ _ _ now => now.work)
      (fun _ _ _ _ now => now.claimed) fun _ _ _ _ now => now
  · exact .bind (countOp_safe (.perform (read _ rfl))) fun cancelled => settleFinal_safe job cancelled

/-- The executor waits for its futures. -/
theorem joinFutures_safe (job : Job) :
    hostContract.Safe (.worker w) (AtWork w job.claimed (some job)) joinFutures
      (fun _ => Settling w job) fun _ => Claimed w job.claimed := by
  refine .perform (fun _ => Settling.stable) (fun _ => Claimed.stable) ?_
  refine keeps_orderly (fun _ _ _ => trivial) (fun store => by cases store) fun s i s₁ _ _ now posted => ?_
  simp only [post] at posted
  split at posted
  · next all =>
    cases posted
    refine ⟨⟨now, fun slot mem => ?_⟩, fun store => by cases store⟩
    have finished := List.all_eq_true.mp all slot mem
    split at finished
    · next e state => exact ⟨e, state⟩
    · cases finished
  · cases posted

theorem executeJob_safe (job : Job) (policy : job.policy = job.claimed.run.executionPolicy) :
    hostContract.Safe (.worker w) (AtWork w job.claimed none) (executeJob job)
      (fun _ => Claimed w job.claimed) fun _ => Claimed w job.claimed := by
  have read : ∀ o : Op, o.isRead = true → ClaimedOp job.claimed o := fun _ => claimedOp_read _
  refine .bind (Q := fun _ => AtWork w job.claimed (some job)) ?_ fun _ => ?_
  · refine .perform (fun _ => AtWork.stable) (fun _ => Claimed.stable) ?_
    refine keeps_orderly ?_ (fun store => by cases store) fun s i s₁ _ _ now posted => ?_
    · exact fun s _ now => ⟨w, rfl, now.claimed, now.job, policy⟩
    · have open_ := now.open_.own (post_change posted) trivial fun v r op => by cases op
      have claimed := ((post_change posted).claimed_eq (fun _ _ _ _ op => by cases op) w).trans now.claimed
      refine ⟨⟨claimed, ?_, open_⟩, fun store => by cases store⟩
      cases posted
      simp
  refine .bind (claimedOp_safe (.perform (read _ rfl))) fun pending => ?_
  refine .bind (claimedOp_safe (.perform (read _ rfl))) fun n => ?_
  refine .finally_ (Q := fun _ => Claimed w job.claimed) (E := fun _ => Claimed w job.claimed) ?_
    (fun _ => closeHeartbeat_safe) fun _ => closeHeartbeat_safe
  refine .bind (Q := fun _ => Settling w job) ?_ fun _ => settleRun_safe job
  refine .finally_ (loopOp_safe (dispatchLoop_uses job n _)) (fun _ => joinFutures_safe job) fun _ => ?_
  exact failureOp_safe (.perform (.read rfl))

theorem dispatchClaimed_safe (setup : WorkerSetup) (cl : ClaimedRun) :
    hostContract.Safe (.worker w) (AtWork w cl none) (dispatchClaimed setup cl)
      (fun _ => Claimed w cl) fun _ => Claimed w cl := by
  have read : ∀ o : Op, o.isRead = true → ClaimedOp cl o := fun _ => claimedOp_read _
  have done : ∀ {job : Option Job}, ∀ s, AtWork w cl job s → Claimed w cl s := fun _ now => now.claimed
  unfold dispatchClaimed
  cases setup.adapters.find? (·.adapterId == cl.run.adapterId) with
  | none => exact (claimedOp_safe (pauseClaimedRun_uses cl _)).post fun _ s _ _ now => done s now
  | some adapter =>
    refine .bind (claimedOp_safe (admitRun_uses cl adapter)) fun admitted => ?_
    refine .ite (fun _ => ?_) fun _ => .ret fun s _ _ now => done s now
    refine .handle (E := fun _ => Claimed w cl) ?_ fun e => failureOp_safe (handleDispatchFailure_uses cl e)
    refine .bind (Q := fun _ => Claimed w cl) ?_ fun _ => .ret fun _ _ _ now => now
    refine .ofExcept_bind (fun policy parsed => ?_) fun _ _ s _ _ now => done s now
    obtain rfl : cl.run.executionPolicy = policy := by
      cases valid : validatePolicy cl.run.executionPolicy with
      | error e => simp [policyFromDict, valid, Except.map] at parsed
      | ok _ => simpa [policyFromDict, valid, Except.map] using parsed
    refine .bind (claimedOp_safe (heartbeatExecution_uses read _ _ _ .heartbeat)) fun renewed => ?_
    exact .ite (fun _ => executeJob_safe _ rfl) fun _ => .ret fun s _ _ now => done s now

/-- The worker has claimed nothing yet. -/
def Unclaimed (w : Nat) (s : State × Watch) : Prop := (s.1.workers w).claimed = none

theorem Unclaimed.stable : hostContract.Stable (.worker w) (Unclaimed w) := by
  intro u ne s s' _ _ _ _ step now
  exact (step.claimed w ne).trans now

/-- A claim gives the worker a run that is running. -/
theorem claimRun_safe (worker queue : String) (now expires : Timestamp) :
    hostContract.Safe (.worker w) (Unclaimed w) (claimRun worker queue now expires)
      (fun
        | some cl => AtWork w cl none
        | none => fun _ => True) fun _ _ => True := by
  refine .perform (fun claimed => ?_) (fun _ => .true _) ?_
  · cases claimed with
    | some cl => exact AtWork.stable
    | none => exact .true _
  refine keeps_orderly (fun s _ now => ⟨w, rfl, now⟩) (fun _ _ _ _ => trivial) fun s i s₁ _ inv idle posted => ?_
  refine ⟨?_, fun _ => trivial⟩
  cases first : s.1.db.firstClaimable queue i.chosen with
  | none =>
    simp only [reply, first]
    trivial
  | some r =>
    simp only [post, first, Option.some.injEq] at posted
    subst posted
    simp only [reply, first, Option.map_some]
    refine ⟨?_, ?_, ?_⟩
    · simp [Claimed, State.giveRun, Tid.dispatch?]
    · cases has : (s.1.workers w).job with
      | none => simp [State.giveRun, Tid.dispatch?, has]
      | some job => cases idle.symm.trans (inv.jobs w job has).1
    · rintro - r' mem id
      obtain ⟨q, _, rfl⟩ := List.mem_map.mp mem
      split
      · exact fun own => by cases own
      · next ne =>
        rw [if_neg ne] at id
        exact absurd id ne

theorem RecoverOp.not_claim (h : RecoverOp o) (worker queue : String) (now expires : Timestamp) :
    o ≠ .claimRun worker queue now expires := by
  rintro rfl
  cases h with
  | requeue h =>
    cases h with
    | read h => cases h

theorem worker_safe (setup : WorkerSetup) :
    hostContract.Safe₀ (.worker w) (Unclaimed w) (runOnce setup) := by
  have ended : ∀ s : State × Watch, hostContract.left (.worker w) s := fun _ => trivial
  refine .bind (Q := fun _ => Unclaimed w) ?_ fun _ => .bind (Q := fun
      | some cl => AtWork w cl none
      | none => fun _ => True) ?_ fun claimed => ?_
  · refine Contract.Safe.weaken (φ := Unclaimed w) (E := fun _ => Unclaimed w) (.of_uses
      (recoverExpiredExecutions_uses ..) Unclaimed.stable fun o op => ?_) (fun _ _ _ now => now)
      (fun _ _ _ _ now => now) fun _ s _ _ _ => ended s
    refine keeps_kept (fun s _ _ => op.orderly s) fun s i s₁ _ now posted => ?_
    exact ((post_change posted).claimed_eq op.not_claim w).trans now
  · unfold claimNextExecution
    refine .ite (fun _ => .raise fun s _ _ _ => ended s) fun _ => ?_
    refine .ite (fun _ => .raise fun s _ _ _ => ended s) fun _ => ?_
    refine .bind (Q := fun _ => Unclaimed w) ?_ fun now => claimRun_safe ..
    refine .perform (fun _ => Unclaimed.stable) (fun _ => .true _) ?_
    refine keeps_orderly (fun _ _ _ => trivial) (fun store => by cases store) fun s i s₁ _ _ now posted => ?_
    cases posted
    exact ⟨now, fun store => by cases store⟩
  · cases claimed with
    | none => exact .ret fun s _ _ _ => ended s
    | some cl =>
      exact (dispatchClaimed_safe setup cl).weaken (fun _ _ _ now => now)
        (fun _ s _ _ _ => ended s) fun _ s _ _ _ => ended s

end

/-! ## Every run -/

/-- A future starts, which keeps its dispatch from being joined. -/
theorem Watched.spawn {s : State × Watch} (h : Watched s) {w k : Nat} {slot : Slot}
    (hasSlot : (s.1.workers w).slots[k]? = some slot) (submitted : slot.state = .submitted) :
    let s' : State × Watch := ({ s.1 with
      workers := Function.update s.1.workers w ((s.1.workers w).setSlot k .running) }, s.2)
    Watched s' ∧ WatchStep (some (.pool w k)) s s' := by
  have notJoined : ¬Joined (s.1.workers w) := by
    intro joined
    obtain ⟨e, finished⟩ := joined slot (List.mem_of_getElem? hasSlot)
    rw [submitted] at finished
    cases finished
  refine h.dispatch (f := fun d => d.setSlot k .running) rfl rfl rfl rfl (h.named w) (fun _ => rfl)
    (fun _ joined => absurd joined notJoined) fun k' other slot' found running => ?_
  have ne : k ≠ k' := by
    rintro rfl
    exact other rfl
  exact ⟨slot', by rw [setSlot_getElem, if_neg ne, found], running⟩

theorem hostContract_holds : hostContract.Holds where
  waits t := by
    cases t with
    | worker w => exact Unclaimed.stable
    | _ => exact .true _
  start t d s p s' _ inv before _ start known' := by
    obtain ⟨start, same⟩ := alongside_start start
    obtain ⟨s₁, g⟩ := s'
    obtain rfl : g = s.2 := same
    have idle : Watched s ∧ WatchStep (some t) s s := inv.quiet (some t) rfl rfl rfl
    have orderly_start : ∀ {P : Op → Prop}, p.Uses P → (∀ o, P o → ∀ s, Orderly t s o) →
        ∃ φ, hostContract.Stable t φ ∧ φ (s₁, s.2) ∧ hostContract.Safe₀ t φ p :=
      fun uses orderly => ⟨_, .true t, trivial, orderly_safe uses orderly⟩
    cases startThread_cases start with
    | call n r =>
      exact ⟨idle.1, idle.2, orderly_start (Request.code_uses r) fun _ op => op.orderly⟩
    | worker w setup =>
      exact ⟨idle.1, idle.2, Unclaimed w, Unclaimed.stable, before, worker_safe setup⟩
    | heartbeat w job hasJob =>
      exact ⟨idle.1, idle.2, orderly_start (heartbeatThread_uses job) fun _ op => op.orderly⟩
    | pool w k job slot hasJob hasSlot submitted =>
      obtain ⟨inv', guar⟩ := inv.spawn hasSlot submitted
      refine ⟨inv', guar, AtReplay w k job, AtReplay.stable, ⟨?_, ?_⟩, poolThread_safe w k job _⟩
      · exact ⟨{ slot with state := .running }, by simp [setSlot_getElem, hasSlot], rfl⟩
      · simpa [Dispatch.setSlot] using hasJob
  environment d s s' _ inv moved _ := by
    obtain ⟨moved, same⟩ := alongside_environment moved
    obtain ⟨s₁, g⟩ := s'
    obtain rfl : g = s.2 := same
    cases d with
    | elapse seconds =>
      cases moved
      exact inv.quiet none rfl rfl rfl
    | snapshots stored =>
      cases moved
      exact inv.quiet none rfl rfl rfl
    | stop w =>
      cases moved
      exact inv.dispatch (f := fun d => { d with events := .stop :: d.events }) rfl rfl rfl rfl (inv.named w)
        (fun _ => rfl) (fun _ joined => ⟨joined, rfl⟩) fun _ _ slot found running => ⟨slot, found, running⟩
    | _ => cases moved

theorem Watched.initial (snapshots : List RequestSnapshot) (relations : List ParameterRelation) :
    Watched (fresh snapshots relations, {}) := by
  refine ⟨?_, fun _ => .nil, ?_, ?_, ?_, ?_, ?_, ?_, ?_⟩ <;> simp [fresh]

/-- The configuration before any call, with an empty history. -/
def watchedInitial (snapshots : List RequestSnapshot) (relations : List ParameterRelation) :
    Config watched := Config.initial (fresh snapshots relations, {})

theorem watched_of_run {snapshots : List RequestSnapshot} {relations : List ParameterRelation}
    {c : Config watched} (run : Run (successive.both hostsInStep) (watchedInitial snapshots relations) c) :
    Watched c.state := by
  have start : hostContract.Sound (watchedInitial snapshots relations) := by
    refine .initial (.initial snapshots relations) fun t => ?_
    cases t with
    | worker w => rfl
    | _ => trivial
  exact (Contract.sound hostContract_holds (fun _ run => consistent_alongside (fun t o d s p => by
    unfold Watch.after
    cases d with
    | op i => dsimp only; split <;> exact .refl _
    | _ => exact .refl _) run) start run).inv

/-- **Host stops.** However the replays of a run interleave and wherever its workers crash: every
host is in the state its outcomes give, each counted once, as long as a run is claimed again only
with the `host_state` the worker before had in memory and what was counted is counted again only
where that changes nothing. -/
theorem hosts_counted (snapshots : List RequestSnapshot) (relations : List ParameterRelation)
    (c : Config watched)
    (run : Run (successive.both hostsInStep) (watchedInitial snapshots relations) c) :
    HostsCounted c.state := by
  have inv := watched_of_run run
  refine ⟨fun w job hasJob held host => ?_, inv.stored⟩
  obtain ⟨claimed, policy⟩ := inv.jobs w job hasJob
  have counted := inv.counted w job.claimed claimed held host
  rw [Dispatch.coordinator_started hasJob] at counted
  rw [counted, policy]

/-! ## An outcome counted twice -/

/-- A stored snapshot without a host, executed under a policy that stops at two transport errors. -/
def hostlessSnapshot : RequestSnapshot := { id := 7, projectId := "p", path := "/users" }

def stopAtTwo : EnqueueRequest where
  checkType := "unauth_access"
  context := { projectId := "p" }
  snapshotIds := [7]
  policy := { transportErrorStop := 2 }

def timedOut : Input where
  count := 1
  step := .returned [("status_code", .null), ("error_type", .str "Timeout")]

/-- A thread takes `n` steps with one outcome. -/
def watchedSteps (t : Tid) (n : Nat) (i : Input) : List (Label watched) := List.replicate n (.step t (.op i))

/-- The run is queued, claimed and its only checkpoint submitted. -/
def submitted : List (Label watched) :=
  .start (.call 0) (.request (.enqueue stopAtTwo)) :: watchedSteps (.call 0) 9 {} ++
    .start (.worker 0) (.worker { workerId := "worker" }) :: watchedSteps (.worker 0) 22 { count := 3 } ++
    [.start (.pool 0 0) .spawn]

/-- The worker stores the result of a request that timed out and the hosts, but crashes before its
checkpoint is finished; the next worker finds the result. -/
def crashedBeforeFinish : List (Label watched) :=
  submitted ++ watchedSteps (.pool 0 0) 16 timedOut ++ watchedSteps (.worker 0) 12 { flag := true } ++
    [.environment (.elapse 100), .start (.worker 1) (.worker { workerId := "worker" })] ++
    watchedSteps (.worker 1) 33 { count := 3 } ++ .start (.pool 1 0) .spawn :: watchedSteps (.pool 1 0) 5 {}

/-- One request that timed out stops the host after a resume, where the policy allows two. -/
theorem hosts_not_counted : ¬ ∀ (snapshots : List RequestSnapshot) (relations : List ParameterRelation)
    (c : Config watched), Run successive (watchedInitial snapshots relations) c → HostsCounted c.state := by
  intro counted
  let P (c : Config watched) : Bool := (c.state.1.workers 1).job.any fun job =>
    c.state.2.holder job.claimed.run.id == some 1 &&
      hostStateOf (c.state.1.workers 1).hosts "<unknown>" !=
        foldOutcomes job.policy "<unknown>" (c.state.2.seen job.claimed.run.id "<unknown>")
  obtain ⟨c, reached, found⟩ := Run.exists_of_follow (P := P)
    (show ((watchedInitial [hostlessSnapshot] []).follow successive crashedBeforeFinish).any P = true by
      decide +kernel)
  obtain ⟨job, hasJob, found⟩ := (Option.any_eq_true _ _).mp found
  simp only [Bool.and_eq_true, beq_iff_eq, bne_iff_ne, ne_eq] at found
  exact found.2 ((counted _ _ c reached).running 1 job hasJob found.1 _)

/-- A worker that crashes after its hosts were stored: the next one goes on from there. -/
theorem hosts_counted_resumed : ∃ c : Config watched,
    Run (successive.both hostsInStep) (watchedInitial [hostlessSnapshot] []) c ∧
      HostsCounted c.state ∧ (c.state.1.workers 1).job.isSome = true := by
  let P (c : Config watched) : Bool := (c.state.1.workers 1).job.isSome
  obtain ⟨c, reached, found⟩ := Run.exists_of_follow (P := P)
    (show ((watchedInitial [hostlessSnapshot] []).follow (successive.both hostsInStep)
      (submitted ++ watchedSteps (.pool 0 0) 19 timedOut ++ watchedSteps (.worker 0) 12 { flag := true } ++
        [.environment (.elapse 100), .start (.worker 1) (.worker { workerId := "worker" })] ++
        watchedSteps (.worker 1) 33 { count := 3 })).any P = true by decide +kernel)
  exact ⟨c, reached, hosts_counted _ _ c reached, found⟩

end ApiManger.Scheduler
