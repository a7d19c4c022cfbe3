import ApiManger.Scheduler.HostOutcomes
import ApiManger.Scheduler.Rely

/-!
# Host stops across restarts

The stop state of a host against the outcomes its requests had. The coordinator of a
worker counts them in memory; the run keeps a copy, written now and then, from which
the next worker starts. Alongside the scheduler stands the history of the outcomes
its replays reported, and which worker claimed a run last.
-/

namespace ApiManger.Scheduler
open Python Store Execution Interleaving Collection

/-! ## Outcomes -/

/-- The outcome of a request, reported for a host under a run. -/
structure Outcome where
  run : ObjectId
  host : String
  evidence : Dict

/-- The outcomes reported so far, and the worker that claimed a run last. -/
structure Watch where
  outcomes : List Outcome := []
  holder : ObjectId → Option Nat := fun _ => none

namespace Watch

/-- The evidence reported for a host of a run, in order. -/
def seen (g : Watch) (run : ObjectId) (host : String) : List Dict :=
  (g.outcomes.filter fun o => o.run == run && o.host == host).map (·.evidence)

theorem seen_append (g : Watch) (o : Outcome) (run : ObjectId) (host : String) :
    { g with outcomes := g.outcomes ++ [o] }.seen run host =
      if o.run = run ∧ o.host = host then g.seen run host ++ [o.evidence] else g.seen run host := by
  simp only [seen, List.filter_append, List.map_append, List.filter_cons, List.filter_nil,
    Bool.and_eq_true, beq_iff_eq]
  split <;> simp

end Watch

/-- Whether the pool thread has called the replay of its adapter. -/
def replayed (t : Tid) (s : State) : Bool :=
  match t with
  | .pool w k => s.replays.any fun r => r.worker == w && r.slot == k
  | _ => false

/-- What is added to the history: the outcomes a replay of this dispatch reports. The recount of a
stored result is none. -/
def reported (t : Tid) (s : State) (host : String) (evidence : Dict) : List Outcome :=
  match (s.dispatch t).job with
  | some job => if replayed t s then [⟨job.claimed.run.id, hostKey host, evidence⟩] else []
  | none => []

/-- The history after an operation that the scheduler carried out. -/
def Watch.next (g : Watch) (t : Tid) (o : Op) (i : Input) (s : State) : Watch :=
  match o with
  | .recordOutcome host evidence => { g with outcomes := g.outcomes ++ reported t s host evidence }
  | .claimRun _ queue _ _ =>
    match s.db.firstClaimable queue i.chosen, t.dispatch? with
    | some r, some w => { g with holder := Function.update g.holder r.id (some w) }
    | _, _ => g
  | _ => g

/-- The same, where a driver failure may have come first. -/
def Watch.after (t : Tid) (o : Op) (d : Decision) (s : State) (p : State × Watch) : State × Watch :=
  match d with
  | .op i => if o.isStore = true ∧ i.fault = some .before then p else (p.1, p.2.next t o i s)
  | _ => p

/-- The scheduler with its history of outcomes. -/
abbrev watched : Machine Sig := scheduler.alongside Watch Watch.after

/-- Another worker has claimed the run since. -/
def superseded (s : State × Watch) (t : Tid) : Bool :=
  match (s.1.dispatch t).claimed, t.dispatch? with
  | some cl, some w => s.2.holder cl.run.id != some w
  | _, _ => false

/-- A worker whose run another one has claimed is gone: no thread of it takes a step any more. -/
def successive : Guard watched where
  start _ _ _ := true
  op t _ _ s := !superseded s t

/-- What the coordinator of a worker holds; before the run is started, what it will start from. -/
def Dispatch.coordinator (d : Dispatch) : List HostState :=
  match d.job, d.claimed with
  | none, some cl => restoreHosts cl.run.hostState
  | _, _ => d.hosts

def sameHosts (a b : List HostState) : Bool :=
  (a ++ b).all fun h => hostStateOf a h.host == hostStateOf b h.host

/-- Whether counting the evidence would leave the state of its host as it is. -/
def recounts (d : Dispatch) (host : String) (evidence : Dict) : Bool :=
  recordEach d.policy (hostStateOf d.hosts (hostKey host)) evidence == hostStateOf d.hosts (hostKey host)

/-- A run is claimed again only when its `host_state` is what the worker before had in memory, and
a stored result is only recounted where that changes nothing. -/
def hostsInStep : Guard watched where
  start _ _ _ := true
  op t o d s := match o, d with
    | .claimRun _ queue _ _, .op i => match s.1.db.firstClaimable queue i.chosen with
      | some r => (s.2.holder r.id).all fun w =>
          sameHosts (restoreHosts r.hostState) (s.1.workers w).coordinator
      | none => true
    | .recordOutcome host evidence, _ => replayed t s.1 || recounts (s.1.dispatch t) host evidence
    | _, _ => true

/-- Every host is in the state its outcomes give, each counted once: in the memory of the worker
that executes a run, and in the record of a run that is done. -/
structure HostsCounted (s : State × Watch) : Prop where
  running : ∀ w job, (s.1.workers w).job = some job → s.2.holder job.claimed.run.id = some w →
    ∀ host, hostStateOf (s.1.workers w).hosts host =
      foldOutcomes job.policy host (s.2.seen job.claimed.run.id host)
  finished : ∀ r ∈ s.1.db.runs, r.status = .done → ∀ host,
    hostStateOf (restoreHosts r.hostState) host =
      foldOutcomes r.executionPolicy host (s.2.seen r.id host)

theorem sameHosts_iff {a b : List HostState} (h : sameHosts a b = true) (host : String) :
    hostStateOf a host = hostStateOf b host := by
  have all : ∀ g ∈ a ++ b, hostStateOf a g.host = hostStateOf b g.host := by
    intro g mem
    exact beq_iff_eq.mp (List.all_eq_true.mp h g mem)
  cases inA : lookup (·.host) a host with
  | some g =>
    rw [← lookup_key inA]
    exact all g (List.mem_append_left _ (lookup_mem inA))
  | none =>
    cases inB : lookup (·.host) b host with
    | some g =>
      rw [← lookup_key inB]
      exact all g (List.mem_append_right _ (lookup_mem inB))
    | none => rw [hostStateOf_eq_lookup, hostStateOf_eq_lookup, inA, inB]

/-! ## The invariant -/

/-- All futures of a dispatch have finished. -/
def Joined (d : Dispatch) : Prop := ∀ slot ∈ d.slots, ∃ exception, slot.state = .finished exception

/-- The pool thread is at work. -/
def Running (w k : Nat) (s : State) : Prop :=
  ∃ slot, (s.workers w).slots[k]? = some slot ∧ slot.state = .running

/-- The run the worker claimed last is not done. -/
def Open (w : Nat) (cl : ClaimedRun) (s : State × Watch) : Prop :=
  s.2.holder cl.run.id = some w → ∀ r ∈ s.1.db.runs, r.id = cl.run.id → r.status ≠ .done

/-- The outcomes against the coordinators and the runs. -/
structure Watched (s : State × Watch) : Prop where
  jobs : ∀ w job, (s.1.workers w).job = some job →
    (s.1.workers w).claimed = some job.claimed ∧ job.policy = job.claimed.run.executionPolicy
  named : ∀ w, Named (s.1.workers w).hosts
  holders : ∀ id w, s.2.holder id = some w → ∃ cl, (s.1.workers w).claimed = some cl ∧ cl.run.id = id
  untouched : ∀ r ∈ s.1.db.runs, s.2.holder r.id = none → r.hostState = []
  seen : ∀ o ∈ s.2.outcomes, s.2.holder o.run ≠ none
  policies : ∀ w cl, (s.1.workers w).claimed = some cl → ∀ r ∈ s.1.db.runs, r.id = cl.run.id →
    r.executionPolicy = cl.run.executionPolicy
  counted : ∀ w cl, (s.1.workers w).claimed = some cl → s.2.holder cl.run.id = some w → ∀ host,
    hostStateOf (s.1.workers w).coordinator host =
      foldOutcomes cl.run.executionPolicy host (s.2.seen cl.run.id host)
  stored : ∀ r ∈ s.1.db.runs, r.status = .done → ∀ host, hostStateOf (restoreHosts r.hostState) host =
    foldOutcomes r.executionPolicy host (s.2.seen r.id host)
  closed : ∀ r ∈ s.1.db.runs, r.status = .done → ∀ w, s.2.holder r.id = some w → Joined (s.1.workers w)

section
variable {s s' : State × Watch}

theorem Dispatch.coordinator_started {d : Dispatch} {job : Job} (hasJob : d.job = some job) :
    d.coordinator = d.hosts := by
  simp only [Dispatch.coordinator, hasJob]

/-- A change of the memories alone, which leaves every host in its state. -/
theorem Watched.memory (h : Watched s) (runs : s'.1.db.runs = s.1.db.runs) (watch : s'.2 = s.2)
    (claimed : ∀ w, (s'.1.workers w).claimed = (s.1.workers w).claimed)
    (job : ∀ w, (s'.1.workers w).job = (s.1.workers w).job)
    (named : ∀ w, Named (s'.1.workers w).hosts)
    (hosts : ∀ w host, hostStateOf (s'.1.workers w).hosts host = hostStateOf (s.1.workers w).hosts host)
    (joined : ∀ r ∈ s.1.db.runs, r.status = .done → ∀ w, s.2.holder r.id = some w →
      Joined (s.1.workers w) → Joined (s'.1.workers w)) : Watched s' where
  jobs w j := by
    rw [job, claimed]
    exact h.jobs w j
  named := named
  holders id w := by
    rw [watch, claimed]
    exact h.holders id w
  untouched := by
    rw [watch, runs]
    exact h.untouched
  seen := by
    rw [watch]
    exact h.seen
  policies w cl := by
    rw [claimed, runs]
    exact h.policies w cl
  counted w cl has held host := by
    rw [claimed] at has
    rw [watch] at held ⊢
    rw [← h.counted w cl has held host]
    unfold Dispatch.coordinator
    rw [job, claimed, has]
    cases (s.1.workers w).job with
    | none => rfl
    | some j => exact hosts w host
  stored r mem done host := by
    rw [watch]
    rw [runs] at mem
    exact h.stored r mem done host
  closed r mem done w held := by
    rw [runs] at mem
    rw [watch] at held
    exact joined r mem done w held (h.closed r mem done w held)

/-- What may become of a run in a step of `u` while the memories stay. -/
inductive RunKept (u : Option Tid) (s : State × Watch) (r' : SecurityTestRun) : Prop
  | same (r : SecurityTestRun) (mem : r ∈ s.1.db.runs) (id : r'.id = r.id)
      (policy : r'.executionPolicy = r.executionPolicy) (hosts : r'.hostState = r.hostState)
      (done : r'.status = .done → r.status = .done)
  | held (r : SecurityTestRun) (mem : r ∈ s.1.db.runs) (id : r'.id = r.id)
      (policy : r'.executionPolicy = r.executionPolicy) (w : Nat) (own : u = some (.worker w))
      (holder : s.2.holder r.id = some w)
      (done : r'.status = .done → Joined (s.1.workers w) ∧ ∀ host,
        hostStateOf (restoreHosts r'.hostState) host =
          foldOutcomes r.executionPolicy host (s.2.seen r.id host))
  | new (id : r'.id = s.1.db.nextId) (hosts : r'.hostState = []) (done : r'.status ≠ .done)

variable {u : Option Tid}

theorem Watched.update (h : Watched s) (consistent : Consistent s.1) (watch : s'.2 = s.2)
    (workers : s'.1.workers = s.1.workers) (runs : ∀ r' ∈ s'.1.db.runs, RunKept u s r') : Watched s' where
  jobs := by
    rw [workers]
    exact h.jobs
  named := by
    rw [workers]
    exact h.named
  holders := by
    rw [workers, watch]
    exact h.holders
  seen := by
    rw [watch]
    exact h.seen
  counted := by
    rw [workers, watch]
    exact h.counted
  untouched r' mem unheld := by
    rw [watch] at unheld
    cases runs r' mem with
    | same r mem id policy hosts done => rw [hosts, h.untouched r mem (id ▸ unheld)]
    | held r mem id policy w own holder done => simp [id, holder] at unheld
    | new id hosts done => exact hosts
  policies w cl has r' mem id' := by
    rw [workers] at has
    cases runs r' mem with
    | same r mem id policy hosts done => rw [policy, h.policies w cl has r mem (id ▸ id')]
    | held r mem id policy v own holder done => rw [policy, h.policies w cl has r mem (id ▸ id')]
    | new id hosts done =>
      obtain ⟨q, memQ, same⟩ := consistent.claims.run w cl has
      have below : q.id < s.1.db.nextId := consistent.keys.runBound q memQ
      rw [same.id, ← id', id] at below
      exact absurd below (lt_irrefl _)
  stored r' mem done' host := by
    rw [watch]
    cases runs r' mem with
    | same r mem id policy hosts done =>
      rw [hosts, policy, id]
      exact h.stored r mem (done done') host
    | held r mem id policy w own holder done =>
      rw [policy, id]
      exact (done done').2 host
    | new id hosts done => exact absurd done' done
  closed r' mem done' w held := by
    rw [watch] at held
    rw [workers]
    cases runs r' mem with
    | same r mem id policy hosts done => exact h.closed r mem (done done') w (id ▸ held)
    | held r mem id policy v own holder done =>
      rw [id, holder] at held
      exact Option.some.inj held ▸ (done done').1
    | new id hosts done => exact absurd done' done

theorem RunWrite.apply_policy (r : SecurityTestRun) (w : RunWrite) :
    (apply r w).executionPolicy = r.executionPolicy := by
  cases w with
  | dispatchFailed id token retryable errorType now => cases retryable <;> rfl
  | _ => rfl

/-- The updates that write `host_state`. -/
def RunWrite.setsHosts : RunWrite → Bool
  | syncCounts .. | pauseAuth .. | finish .. => true
  | _ => false

theorem RunWrite.apply_keepsHosts {r : SecurityTestRun} {w : RunWrite} (plain : setsHosts w = false) :
    (apply r w).hostState = r.hostState ∧ ((apply r w).status = .done → r.status = .done) := by
  cases w with
  | syncCounts | pauseAuth | finish => cases plain
  | dispatchFailed id token retryable errorType now => cases retryable <;> exact ⟨rfl, nofun⟩
  | heartbeat | refreshCounts | authReady => exact ⟨rfl, fun done => done⟩
  | _ => exact ⟨rfl, nofun⟩

/-- An update of a run, where those that write `host_state` are accounted for. -/
theorem runKept_of_update {w : RunWrite} (held : RunWrite.setsHosts w = true →
    ∀ r ∈ s.1.db.runs, r.id = w.target → RunWrite.guard r w = true → RunKept u s (RunWrite.apply r w)) :
    ∀ r' ∈ (s.1.db.updateRun w).runs, RunKept u s r' := by
  intro r' mem
  obtain ⟨r, old, rfl⟩ := List.mem_map.mp mem
  unfold RunWrite.on
  split
  · next hit =>
    cases plain : RunWrite.setsHosts w with
    | true => exact held plain r old hit.1 hit.2
    | false =>
      obtain ⟨hosts, done⟩ := RunWrite.apply_keepsHosts (r := r) plain
      exact .same r old (RunWrite.apply_id r w) (RunWrite.apply_policy r w) hosts done
  · exact .same r old rfl rfl rfl fun done => done

/-- A dispatch with its memory changed. -/
theorem update_workers {s₁ : State} {w : Nat} {f : Dispatch → Dispatch} {β : Type} (read : Dispatch → β)
    (same : read (f (s₁.workers w)) = read (s₁.workers w)) (v : Nat) :
    read (Function.update s₁.workers w (f (s₁.workers w)) v) = read (s₁.workers v) := by
  by_cases here : v = w
  · rw [here, Function.update_self, same]
  · rw [Function.update_of_ne here]

/-- An outcome is reported, or a stored result recounted where that changes nothing. -/
theorem Watched.record (h : Watched s) {w k : Nat} {job : Job} (running : Running w k s.1)
    (hasJob : (s.1.workers w).job = some job) (current : s.2.holder job.claimed.run.id = some w)
    (host : String) (evidence : Dict)
    (counts : replayed (.pool w k) s.1 = false → recounts (s.1.workers w) host evidence = true)
    (state : s'.1 = { s.1 with workers := Function.update s.1.workers w { s.1.workers w with
      hosts := putHostState (s.1.workers w).hosts (recordEach (s.1.workers w).policy
        (hostStateOf (s.1.workers w).hosts (hostKey host)) evidence) } })
    (watch : s'.2 = { s.2 with outcomes := s.2.outcomes ++ reported (.pool w k) s.1 host evidence }) :
    Watched s' := by
  have dispatch : s.1.dispatch (.pool w k) = s.1.workers w := rfl
  obtain ⟨claimed, policy⟩ := h.jobs w job hasJob
  have policy_eq : (s.1.workers w).policy = job.policy := by simp [Dispatch.policy, hasJob]
  let record (d : Dispatch) : Dispatch := { d with
    hosts := putHostState d.hosts (recordEach d.policy (hostStateOf d.hosts (hostKey host)) evidence) }
  have workers : s'.1.workers = Function.update s.1.workers w (record (s.1.workers w)) := by rw [state]
  have runs : s'.1.db.runs = s.1.db.runs := by rw [state]
  have named : ∀ v, Named (s'.1.workers v).hosts := by
    intro v
    rw [workers]
    by_cases here : v = w
    · rw [here, Function.update_self]
      exact (h.named w).put (by simp)
    · rw [Function.update_of_ne here]
      exact h.named v
  have same_claimed : ∀ v, (s'.1.workers v).claimed = (s.1.workers v).claimed := by
    rw [workers]
    exact update_workers (f := record) (·.claimed) rfl
  have same_job : ∀ v, (s'.1.workers v).job = (s.1.workers v).job := by
    rw [workers]
    exact update_workers (f := record) (·.job) rfl
  have same_slots : ∀ v, (s'.1.workers v).slots = (s.1.workers v).slots := by
    rw [workers]
    exact update_workers (f := record) (·.slots) rfl
  cases fresh : replayed (.pool w k) s.1 with
  | false =>
    have nothing : s'.2 = s.2 := by
      rw [watch, reported, dispatch, hasJob]
      simp [fresh]
    refine h.memory runs nothing same_claimed same_job named ?_ ?_
    · intro v k'
      rw [workers]
      by_cases here : v = w
      · rw [here, Function.update_self, hostStateOf_put, recordEach_host, hostStateOf_host,
          beq_iff_eq.mp (counts fresh)]
        split
        · next same => rw [same]
        · rfl
      · rw [Function.update_of_ne here]
    · intro r mem done v held joined
      rw [Joined, same_slots]
      exact joined
  | true =>
    have added : s'.2 = { s.2 with
        outcomes := s.2.outcomes ++ [⟨job.claimed.run.id, hostKey host, evidence⟩] } := by
      rw [watch, reported, dispatch, hasJob]
      simp [fresh]
    have holder : s'.2.holder = s.2.holder := by rw [added]
    have other : ∀ id, id ≠ job.claimed.run.id → ∀ k', s'.2.seen id k' = s.2.seen id k' := by
      intro id ne k'
      rw [added, Watch.seen_append, if_neg fun both => ne both.1.symm]
    refine ⟨?_, named, ?_, ?_, ?_, ?_, ?_, ?_, ?_⟩
    · intro v j
      rw [same_job, same_claimed]
      exact h.jobs v j
    · intro id v
      rw [holder, same_claimed]
      exact h.holders id v
    · rw [runs, holder]
      exact h.untouched
    · intro o mem
      rw [holder]
      rw [added] at mem
      rcases List.mem_append.mp mem with old | new
      · exact h.seen o old
      · rw [List.mem_singleton.mp new]
        simp [current]
    · intro v cl
      rw [same_claimed, runs]
      exact h.policies v cl
    · intro v cl has held k'
      rw [same_claimed] at has
      rw [holder] at held
      by_cases here : v = w
      · subst here
        obtain rfl : job.claimed = cl := Option.some.inj (claimed.symm.trans has)
        have before := h.counted v job.claimed has held k'
        rw [Dispatch.coordinator_started hasJob] at before
        rw [Dispatch.coordinator_started ((same_job v).trans hasJob), workers, Function.update_self,
          hostStateOf_put, recordEach_host, hostStateOf_host, added, Watch.seen_append]
        split
        · next same =>
          rw [if_pos ⟨rfl, same⟩, foldOutcomes_append, ← before, policy_eq, policy, same]
        · next differs =>
          rw [if_neg fun both => differs both.2]
          exact before
      · have ne : cl.run.id ≠ job.claimed.run.id := by
          intro same
          rw [same, current] at held
          exact here (Option.some.inj held).symm
        rw [other _ ne, ← h.counted v cl has held k', workers, Function.update_of_ne here]
    · intro r mem done k'
      rw [runs] at mem
      have ne : r.id ≠ job.claimed.run.id := by
        intro same
        obtain ⟨slot, found, running⟩ := running
        obtain ⟨e, finished⟩ := h.closed r mem done w (same ▸ current) slot (List.mem_of_getElem? found)
        rw [running] at finished
        cases finished
      rw [other _ ne]
      exact h.stored r mem done k'
    · intro r mem done v held
      rw [runs] at mem
      rw [holder] at held
      rw [Joined, same_slots]
      exact h.closed r mem done v held

theorem Watched.seen_nil (h : Watched s) {id : ObjectId} (unheld : s.2.holder id = none) (host : String) :
    s.2.seen id host = [] := by
  rw [Watch.seen, List.map_eq_nil_iff, List.filter_eq_nil_iff]
  intro o mem same
  simp only [Bool.and_eq_true, beq_iff_eq] at same
  exact h.seen o mem (same.1 ▸ unheld)

/-- A worker claims a run whose record is what the worker before it had in memory. -/
theorem Watched.claim (h : Watched s) {w : Nat} (idle : (s.1.workers w).claimed = none)
    {r : SecurityTestRun} (mem : r ∈ s.1.db.runs)
    (kept : ∀ v, s.2.holder r.id = some v →
      sameHosts (restoreHosts r.hostState) (s.1.workers v).coordinator = true)
    {cl : ClaimedRun} (id : cl.run.id = r.id) (policy : cl.run.executionPolicy = r.executionPolicy)
    (hosts : cl.run.hostState = r.hostState)
    (runs : ∀ r' ∈ s'.1.db.runs, r' ∈ s.1.db.runs ∧ r'.id ≠ r.id ∨
      r'.id = r.id ∧ r'.executionPolicy = r.executionPolicy ∧ r'.status ≠ .done)
    (workers : s'.1.workers = Function.update s.1.workers w { s.1.workers w with claimed := some cl })
    (watch : s'.2 = { s.2 with holder := Function.update s.2.holder r.id (some w) }) : Watched s' := by
  have noJob : (s.1.workers w).job = none := by
    cases has : (s.1.workers w).job with
    | none => rfl
    | some job => simp [(h.jobs w job has).1] at idle
  have others : ∀ v, v ≠ w → s'.1.workers v = s.1.workers v := fun v ne => by
    rw [workers, Function.update_of_ne ne]
  have own : s'.1.workers w = { s.1.workers w with claimed := some cl } := by
    rw [workers, Function.update_self]
  have seen : ∀ id host, s'.2.seen id host = s.2.seen id host := fun id host => by rw [watch]; rfl
  have held : s'.2.holder r.id = some w := by
    rw [watch]
    exact Function.update_self ..
  have unheld : ∀ id, id ≠ r.id → s'.2.holder id = s.2.holder id := fun id ne => by
    rw [watch]
    exact Function.update_of_ne ne ..
  have busy : ∀ id v, s.2.holder id = some v → v ≠ w := by
    rintro id v holds rfl
    obtain ⟨cl', has, _⟩ := h.holders id v holds
    rw [idle] at has
    cases has
  refine ⟨?_, ?_, ?_, ?_, ?_, ?_, ?_, ?_, ?_⟩
  · intro v job has
    by_cases here : v = w
    · rw [here, own] at has
      rw [noJob] at has
      cases has
    · rw [others v here] at has ⊢
      exact h.jobs v job has
  · intro v
    by_cases here : v = w
    · rw [here, own]
      exact h.named w
    · rw [others v here]
      exact h.named v
  · intro id' v holds
    by_cases same : id' = r.id
    · rw [same, held] at holds
      obtain rfl := Option.some.inj holds
      exact ⟨cl, by rw [own], id.trans same.symm⟩
    · rw [unheld id' same] at holds
      rw [others v (busy id' v holds)]
      exact h.holders id' v holds
  · intro r' mem' none_
    rcases runs r' mem' with ⟨old, ne⟩ | ⟨same, _⟩
    · exact h.untouched r' old (unheld r'.id ne ▸ none_)
    · rw [same, held] at none_
      cases none_
  · intro o inside
    have inside : o ∈ s.2.outcomes := by rwa [watch] at inside
    by_cases same : o.run = r.id
    · rw [same, held]
      nofun
    · rw [unheld o.run same]
      exact h.seen o inside
  · intro v cl' has r' mem' isRun
    by_cases here : v = w
    · rw [here, own] at has
      obtain rfl := Option.some.inj has
      rcases runs r' mem' with ⟨_, ne⟩ | ⟨_, samePolicy, _⟩
      · exact absurd (isRun.trans id) ne
      · rw [samePolicy, policy]
    · rw [others v here] at has
      rcases runs r' mem' with ⟨old, _⟩ | ⟨same, samePolicy, _⟩
      · exact h.policies v cl' has r' old isRun
      · rw [samePolicy]
        exact h.policies v cl' has r mem (same.symm.trans isRun)
  · intro v cl' has holds host
    rw [seen]
    by_cases here : v = w
    · rw [here, own] at has ⊢
      obtain rfl := Option.some.inj has
      have coordinator : ({ s.1.workers w with claimed := some cl } : Dispatch).coordinator =
          restoreHosts r.hostState := by
        simp only [Dispatch.coordinator, noJob, hosts]
      rw [coordinator, id, policy]
      cases before : s.2.holder r.id with
      | none =>
        rw [h.untouched r mem before, h.seen_nil before]
        rfl
      | some v =>
        obtain ⟨cl₀, has₀, id₀⟩ := h.holders r.id v before
        rw [sameHosts_iff (kept v before) host, h.policies v cl₀ has₀ r mem id₀.symm, ← id₀]
        exact h.counted v cl₀ has₀ (id₀ ▸ before) host
    · rw [others v here] at has ⊢
      have ne : cl'.run.id ≠ r.id := by
        intro same
        rw [same, held] at holds
        exact here (Option.some.inj holds).symm
      rw [unheld _ ne] at holds
      exact h.counted v cl' has holds host
  · intro r' mem' done host
    rw [seen]
    rcases runs r' mem' with ⟨old, _⟩ | ⟨_, _, notDone⟩
    · exact h.stored r' old done host
    · exact absurd done notDone
  · intro r' mem' done v holds
    rcases runs r' mem' with ⟨old, ne⟩ | ⟨_, _, notDone⟩
    · rw [unheld r'.id ne] at holds
      rw [others v (busy _ v holds)]
      exact h.closed r' old done v holds
    · exact absurd done notDone

/-- The worker starts its run from what its claim returned. -/
theorem Watched.started (h : Watched s) {w : Nat} {job : Job}
    (claimed : (s.1.workers w).claimed = some job.claimed) (noJob : (s.1.workers w).job = none)
    (policy : job.policy = job.claimed.run.executionPolicy) (runs : s'.1.db.runs = s.1.db.runs)
    (watch : s'.2 = s.2)
    (workers : s'.1.workers = Function.update s.1.workers w { s.1.workers w with
      job := some job, hosts := restoreHosts job.claimed.run.hostState }) : Watched s' := by
  let start (d : Dispatch) : Dispatch :=
    { d with job := some job, hosts := restoreHosts job.claimed.run.hostState }
  have workers : s'.1.workers = Function.update s.1.workers w (start (s.1.workers w)) := workers
  have same_claimed : ∀ v, (s'.1.workers v).claimed = (s.1.workers v).claimed := by
    rw [workers]
    exact update_workers (f := start) (·.claimed) rfl
  have same_slots : ∀ v, (s'.1.workers v).slots = (s.1.workers v).slots := by
    rw [workers]
    exact update_workers (f := start) (·.slots) rfl
  have own : s'.1.workers w = start (s.1.workers w) := by rw [workers, Function.update_self]
  have others : ∀ v, v ≠ w → s'.1.workers v = s.1.workers v := fun v ne => by
    rw [workers, Function.update_of_ne ne]
  refine ⟨?_, ?_, ?_, ?_, ?_, ?_, ?_, ?_, ?_⟩
  · intro v j has
    by_cases here : v = w
    · rw [here, own] at has
      obtain rfl := Option.some.inj has
      rw [here, same_claimed]
      exact ⟨claimed, policy⟩
    · rw [others v here] at has ⊢
      exact h.jobs v j has
  · intro v
    by_cases here : v = w
    · rw [here, own]
      exact named_restoreHosts _
    · rw [others v here]
      exact h.named v
  · intro id v
    rw [watch, same_claimed]
    exact h.holders id v
  · rw [runs, watch]
    exact h.untouched
  · rw [watch]
    exact h.seen
  · intro v cl
    rw [same_claimed, runs]
    exact h.policies v cl
  · intro v cl has held host
    rw [same_claimed] at has
    rw [watch] at held ⊢
    rw [← h.counted v cl has held host]
    by_cases here : v = w
    · subst here
      have own_job : (s'.1.workers v).job = some job := by rw [own]
      rw [Dispatch.coordinator_started own_job, own]
      simp only [Dispatch.coordinator, noJob, claimed, start]
    · rw [others v here]
  · rw [runs, watch]
    exact h.stored
  · intro r mem done v held
    rw [runs] at mem
    rw [watch] at held
    rw [Joined, same_slots]
    exact h.closed r mem done v held

/-! ## One step -/

/-- What a step of a thread leaves to the others. -/
structure WatchStep (u : Option Tid) (s s' : State × Watch) : Prop where
  claimed : ∀ w, u ≠ some (.worker w) → (s'.1.workers w).claimed = (s.1.workers w).claimed
  job : ∀ w, u ≠ some (.worker w) → (s'.1.workers w).job = (s.1.workers w).job
  started : ∀ w job, (s.1.workers w).job = some job → (s'.1.workers w).job = some job
  joined : ∀ w, u ≠ some (.worker w) → Joined (s.1.workers w) →
    Joined (s'.1.workers w) ∧ (s'.1.workers w).hosts = (s.1.workers w).hosts
  running : ∀ w k, u ≠ some (.pool w k) → Running w k s.1 → Running w k s'.1
  done : ∀ r' ∈ s'.1.db.runs, r'.status = .done →
    (∃ r ∈ s.1.db.runs, r.id = r'.id ∧ r.status = .done) ∨
      ∃ w, u = some (.worker w) ∧ s.2.holder r'.id = some w
  holder : ∀ id, s'.2.holder id = s.2.holder id ∨ ∃ w, u = some (.worker w) ∧ s'.2.holder id = some w

/-- What an update of `host_state` needs. -/
def HostsWritten (w : Nat) (cl : ClaimedRun) (s : State × Watch) : RunWrite → Prop
  | .syncCounts .. => Open w cl s
  | .finish _ _ _ hosts _ => (s.1.workers w).job.isSome = true ∧ Joined (s.1.workers w) ∧
      hosts.Perm (s.1.workers w).hosts
  | _ => True

/-- What a thread must know to come to an operation. -/
def Orderly (t : Tid) (s : State × Watch) : Op → Prop
  | .claimRun .. => ∃ w, t = .worker w ∧ (s.1.workers w).claimed = none
  | .startExecution job => ∃ w, t = .worker w ∧ (s.1.workers w).claimed = some job.claimed ∧
      (s.1.workers w).job = none ∧ job.policy = job.claimed.run.executionPolicy
  | .submit _ => ∃ w cl, t = .worker w ∧ (s.1.workers w).claimed = some cl ∧ Open w cl s
  | .acquire _ => ∃ w k, t = .pool w k ∧ Running w k s.1
  | .recordOutcome .. => ∃ w k job, t = .pool w k ∧ Running w k s.1 ∧ (s.1.workers w).job = some job
  | .updateRun v => v.setsHosts = true → ∃ w cl, t = .worker w ∧ (s.1.workers w).claimed = some cl ∧
      v.target = cl.run.id ∧ HostsWritten w cl s v
  | .insertRun r => FreshRun r
  | _ => True

theorem WatchStep.of_workers (workers : s'.1.workers = s.1.workers) (watch : s'.2 = s.2)
    (done : ∀ r' ∈ s'.1.db.runs, r'.status = .done →
      (∃ r ∈ s.1.db.runs, r.id = r'.id ∧ r.status = .done) ∨
        ∃ w, u = some (.worker w) ∧ s.2.holder r'.id = some w) : WatchStep u s s' where
  claimed _ _ := by rw [workers]
  job _ _ := by rw [workers]
  started _ _ has := by rwa [workers]
  joined _ _ joined := by
    rw [workers]
    exact ⟨joined, rfl⟩
  running _ _ _ running := by rwa [Running, workers]
  done := done
  holder _ := .inl (by rw [watch])

/-- The runs and the memories stay. -/
theorem Watched.quiet (h : Watched s) (u : Option Tid) (runs : s'.1.db.runs = s.1.db.runs)
    (workers : s'.1.workers = s.1.workers) (watch : s'.2 = s.2) : Watched s' ∧ WatchStep u s s' := by
  refine ⟨?_, .of_workers workers watch fun r mem done => .inl ⟨r, runs ▸ mem, rfl, done⟩⟩
  refine h.memory runs watch (fun _ => by rw [workers]) (fun _ => by rw [workers]) ?_ ?_ ?_
  · rw [workers]
    exact h.named
  · intro w host
    rw [workers]
  · rw [workers]
    exact fun _ _ _ _ _ joined => joined

/-- One memory changes; its claim, its job and the state of every host stay. -/
theorem Watched.dispatch (h : Watched s) {w : Nat} {f : Dispatch → Dispatch}
    (state : s'.1 = { s.1 with workers := Function.update s.1.workers w (f (s.1.workers w)) })
    (watch : s'.2 = s.2) (claimed : (f (s.1.workers w)).claimed = (s.1.workers w).claimed)
    (job : (f (s.1.workers w)).job = (s.1.workers w).job) (named : Named (f (s.1.workers w)).hosts)
    (hosts : ∀ host, hostStateOf (f (s.1.workers w)).hosts host = hostStateOf (s.1.workers w).hosts host)
    (joined : (u ≠ some (.worker w) ∨ ∃ r ∈ s.1.db.runs, r.status = .done ∧ s.2.holder r.id = some w) →
      Joined (s.1.workers w) →
        Joined (f (s.1.workers w)) ∧ (f (s.1.workers w)).hosts = (s.1.workers w).hosts)
    (running : ∀ k, u ≠ some (.pool w k) → ∀ slot, (s.1.workers w).slots[k]? = some slot →
      slot.state = .running → ∃ slot', (f (s.1.workers w)).slots[k]? = some slot' ∧ slot'.state = .running) :
    Watched s' ∧ WatchStep u s s' := by
  have workers : s'.1.workers = Function.update s.1.workers w (f (s.1.workers w)) := by rw [state]
  have runs : s'.1.db.runs = s.1.db.runs := by rw [state]
  have own : s'.1.workers w = f (s.1.workers w) := by rw [workers, Function.update_self]
  have others : ∀ v, v ≠ w → s'.1.workers v = s.1.workers v := fun v ne => by
    rw [workers, Function.update_of_ne ne]
  have same_claimed : ∀ v, (s'.1.workers v).claimed = (s.1.workers v).claimed := by
    rw [workers]
    exact update_workers (·.claimed) claimed
  have same_job : ∀ v, (s'.1.workers v).job = (s.1.workers v).job := by
    rw [workers]
    exact update_workers (·.job) job
  refine ⟨?_, ?_⟩
  · refine h.memory runs watch same_claimed same_job ?_ ?_ ?_
    · intro v
      by_cases here : v = w
      · rw [here, own]
        exact named
      · rw [others v here]
        exact h.named v
    · intro v host
      by_cases here : v = w
      · rw [here, own]
        exact hosts host
      · rw [others v here]
    · intro r mem done v held all
      by_cases here : v = w
      · subst here
        rw [own]
        exact (joined (.inr ⟨r, mem, done, held⟩) all).1
      · rw [others v here]
        exact all
  · refine ⟨fun v _ => same_claimed v, fun v _ => same_job v, fun v j has => (same_job v).trans has, ?_,
      ?_, fun r mem done => .inl ⟨r, runs ▸ mem, rfl, done⟩, fun id => .inl (by rw [watch])⟩
    · intro v other all
      by_cases here : v = w
      · subst here
        rw [own]
        exact joined (.inl other) all
      · rw [others v here]
        exact ⟨all, rfl⟩
    · rintro v k other ⟨slot, found, runs_⟩
      by_cases here : v = w
      · subst here
        rw [Running, own]
        exact running k other slot found runs_
      · rw [Running, others v here]
        exact ⟨slot, found, runs_⟩

/-- A pool thread at work keeps its dispatch from being joined. -/
theorem Running.not_joined {w k : Nat} {s₁ : State} (running : Running w k s₁) :
    ¬ Joined (s₁.workers w) := by
  intro joined
  obtain ⟨slot, found, at_work⟩ := running
  obtain ⟨e, finished⟩ := joined slot (List.mem_of_getElem? found)
  rw [at_work] at finished
  cases finished

theorem setSlot_getElem (d : Dispatch) (k k' : Nat) (state : FutureState) :
    (d.setSlot k state).slots[k']? =
      if k = k' then d.slots[k']?.map fun slot => { slot with state := state } else d.slots[k']? := by
  simp only [Dispatch.setSlot, List.getElem?_modify]
  split
  · rfl
  · simp

section
variable {t : Tid} {o : Op} {i : Input} {s₁ : State}

theorem Watch.next_other (g : Watch)
    (notClaim : ∀ worker queue now expires, o ≠ .claimRun worker queue now expires)
    (notRecord : ∀ host evidence, o ≠ .recordOutcome host evidence) : g.next t o i s₁ = g := by
  cases o with
  | claimRun worker queue now expires => exact (notClaim worker queue now expires rfl).elim
  | recordOutcome host evidence => exact (notRecord host evidence rfl).elim
  | _ => rfl

/-- A run is claimed. -/
theorem Watched.claimStep (h : Watched s) {w : Nat} (idle : (s.1.workers w).claimed = none) {worker queue : String} {now expires : Timestamp}
    (kept : hostsInStep.op (.worker w) (.claimRun worker queue now expires) (.op i) s = true)
    (posted : post (.worker w) i s.1 (.claimRun worker queue now expires) = some s₁) :
    Watched (s₁, s.2.next (.worker w) (.claimRun worker queue now expires) i s.1) ∧
      WatchStep (some (.worker w)) s
        (s₁, s.2.next (.worker w) (.claimRun worker queue now expires) i s.1) := by
  cases first : s.1.db.firstClaimable queue i.chosen with
  | none =>
    have same : s₁ = s.1 := by
      simp only [post, first] at posted
      split at posted
      · exact (Option.some.inj posted).symm
      · cases posted
    have watch : s.2.next (.worker w) (.claimRun worker queue now expires) i s.1 = s.2 := by
      simp only [Watch.next, first]
    rw [same, watch]
    exact h.quiet _ rfl rfl rfl
  | some r =>
    simp only [post, first, Option.some.injEq] at posted
    subst posted
    obtain ⟨mem, _, _, queued⟩ := Database.firstClaimable_mem first
    have watch : s.2.next (.worker w) (.claimRun worker queue now expires) i s.1 =
        { s.2 with holder := Function.update s.2.holder r.id (some w) } := by
      simp only [Watch.next, first, Tid.dispatch?]
    have given : s.1.giveRun (.worker w) (newClaim r worker s.1.nextToken now expires) =
        Function.update s.1.workers w { s.1.workers w with
          claimed := some (newClaim r worker s.1.nextToken now expires) } := by
      funext v
      by_cases here : v = w
      · subst here
        simp [State.giveRun, Tid.dispatch?]
      · simp [State.giveRun, Tid.dispatch?, here, Ne.symm here]
    have runs : ∀ r' ∈ s.1.db.runs.map (fun q =>
          if q.id = r.id then claimUpdate r worker s.1.nextToken now expires else q),
        r' ∈ s.1.db.runs ∧ r'.id ≠ r.id ∨
          r'.id = r.id ∧ r'.executionPolicy = r.executionPolicy ∧ r'.status ≠ .done := by
      intro r' mem'
      obtain ⟨q, memQ, rfl⟩ := List.mem_map.mp mem'
      split
      · exact .inr ⟨rfl, rfl, fun done => by cases done⟩
      · next ne => exact .inl ⟨memQ, ne⟩
    have kept : ∀ v, s.2.holder r.id = some v →
        sameHosts (restoreHosts r.hostState) (s.1.workers v).coordinator = true := by
      intro v held
      simpa [hostsInStep, first, held] using kept
    rw [watch]
    refine ⟨h.claim idle mem kept rfl rfl rfl runs given rfl, ?_⟩
    have others : ∀ v, v ≠ w → s.1.giveRun (.worker w) (newClaim r worker s.1.nextToken now expires) v =
        s.1.workers v := fun v ne => by rw [given, Function.update_of_ne ne]
    have own_job : ∀ v, (s.1.giveRun (.worker w) (newClaim r worker s.1.nextToken now expires) v).job =
        (s.1.workers v).job := by
      rw [given]
      exact update_workers (f := fun d => { d with claimed := some (newClaim r worker s.1.nextToken now expires) })
        (·.job) rfl
    have own_slots : ∀ v, (s.1.giveRun (.worker w) (newClaim r worker s.1.nextToken now expires) v).slots =
        (s.1.workers v).slots := by
      rw [given]
      exact update_workers (f := fun d => { d with claimed := some (newClaim r worker s.1.nextToken now expires) })
        (·.slots) rfl
    refine ⟨?_, fun v _ => own_job v, fun v job has => (own_job v).trans has, ?_, ?_, ?_, ?_⟩
    · intro v other
      exact congrArg (·.claimed) (others v fun same => other (by rw [same]))
    · intro v other joined
      have same := others v fun same => other (by rw [same])
      refine ⟨?_, congrArg (·.hosts) same⟩
      rw [Joined]
      dsimp only
      rw [same]
      exact joined
    · intro v k _ running
      rw [Running]
      dsimp only
      rw [own_slots]
      exact running
    · intro r' mem' done
      rcases runs r' mem' with ⟨old, _⟩ | ⟨_, _, notDone⟩
      · exact .inl ⟨r', old, rfl, done⟩
      · exact absurd done notDone
    · intro id
      by_cases same : id = r.id
      · exact .inr ⟨w, rfl, by simp [same]⟩
      · exact .inl (by simp [Function.update_of_ne same])

theorem RunKept.step {u : Option Tid} (workers : s'.1.workers = s.1.workers) (watch : s'.2 = s.2)
    (runs : ∀ r' ∈ s'.1.db.runs, RunKept u s r') : WatchStep u s s' := by
  refine .of_workers workers watch fun r' mem done' => ?_
  cases runs r' mem with
  | same r mem id policy hosts done => exact .inl ⟨r, mem, id.symm, done done'⟩
  | held r mem id policy w own holder done => exact .inr ⟨w, own, by rw [id, holder]⟩
  | new id hosts done => exact absurd done' done

/-- A run is started. -/
theorem Watched.startStep (h : Watched s) {w : Nat} {job : Job}
    (claimed : (s.1.workers w).claimed = some job.claimed) (noJob : (s.1.workers w).job = none)
    (policy : job.policy = job.claimed.run.executionPolicy) :
    let s' : State × Watch := ({ s.1 with workers := Function.update s.1.workers w { s.1.workers w with
      job := some job, hosts := restoreHosts job.claimed.run.hostState } }, s.2)
    Watched s' ∧ WatchStep (some (.worker w)) s s' := by
  intro s'
  have others : ∀ v, some (Tid.worker w) ≠ some (.worker v) → s'.1.workers v = s.1.workers v := by
    intro v other
    exact Function.update_of_ne (fun same => other (by rw [same])) ..
  refine ⟨h.started claimed noJob policy rfl rfl rfl, ?_, ?_, ?_, ?_, ?_, ?_, fun _ => .inl rfl⟩
  · intro v other
    rw [others v other]
  · intro v other
    rw [others v other]
  · intro v j has
    by_cases here : v = w
    · rw [here, noJob] at has
      cases has
    · rw [others v fun same => here (by cases same; rfl)]
      exact has
  · intro v other joined
    rw [others v other]
    exact ⟨joined, rfl⟩
  · rintro v k _ ⟨slot, found, running⟩
    by_cases here : v = w
    · subst here
      exact ⟨slot, by simpa [s'] using found, running⟩
    · rw [Running, others v fun same => here (by cases same; rfl)]
      exact ⟨slot, found, running⟩
  · exact fun r mem done => .inl ⟨r, mem, rfl, done⟩

/-- An outcome is recorded. -/
theorem Watched.recordStep (h : Watched s) {w k : Nat} {job : Job} (running : Running w k s.1)
    (hasJob : (s.1.workers w).job = some job) (current : s.2.holder job.claimed.run.id = some w)
    {host : String} {evidence : Dict}
    (counts : replayed (.pool w k) s.1 = false → recounts (s.1.workers w) host evidence = true)
    (posted : post (.pool w k) i s.1 (.recordOutcome host evidence) = some s₁) :
    Watched (s₁, s.2.next (.pool w k) (.recordOutcome host evidence) i s.1) ∧
      WatchStep (some (.pool w k)) s (s₁, s.2.next (.pool w k) (.recordOutcome host evidence) i s.1) := by
  let record (d : Dispatch) : Dispatch := { d with
    hosts := putHostState d.hosts (recordEach d.policy (hostStateOf d.hosts (hostKey host)) evidence) }
  obtain rfl : s₁ = { s.1 with workers := Function.update s.1.workers w (record (s.1.workers w)) } := by
    have hosts := recordHostOutcome_hosts (s.1.workers w).policy (s.1.workers w).hosts host evidence
    refine (Option.some.inj posted).symm.trans ?_
    simp only [record]
    exact hosts ▸ rfl
  refine ⟨h.record running hasJob current host evidence counts rfl rfl, ?_⟩
  refine ⟨fun v _ => update_workers (f := record) (·.claimed) rfl v,
    fun v _ => update_workers (f := record) (·.job) rfl v,
    fun v j has => (update_workers (f := record) (·.job) rfl v).trans has, ?_, ?_,
    fun r mem done => .inl ⟨r, mem, rfl, done⟩, fun _ => .inl rfl⟩
  · intro v _ joined
    have ne : v ≠ w := by
      rintro rfl
      exact running.not_joined joined
    dsimp only
    rw [Function.update_of_ne ne]
    exact ⟨joined, rfl⟩
  · rintro v k' _ ⟨slot, found, at_work⟩
    have slots : (Function.update s.1.workers w (record (s.1.workers w)) v).slots = (s.1.workers v).slots :=
      update_workers (·.slots) rfl v
    exact ⟨slot, slots ▸ found, at_work⟩

theorem Watched.updateStep (h : Watched s) (consistent : Consistent s.1) {t : Tid} {v : RunWrite}
    (orderly : v.setsHosts = true → ∃ w cl, t = .worker w ∧ (s.1.workers w).claimed = some cl ∧
      v.target = cl.run.id ∧ HostsWritten w cl s v)
    (current : superseded s t = false) :
    let s' : State × Watch := ({ s.1 with db := s.1.db.updateRun v }, s.2)
    Watched s' ∧ WatchStep (some t) s s' := by
  have runs : ∀ r' ∈ (s.1.db.updateRun v).runs, RunKept (some t) s r' := by
    refine runKept_of_update fun sets r mem target guard => ?_
    obtain ⟨w, cl, rfl, claimed, isRun, written⟩ := orderly sets
    have holder : s.2.holder cl.run.id = some w := by
      simpa [superseded, State.dispatch, Tid.dispatch?, claimed] using current
    have id : r.id = cl.run.id := target.trans isRun
    refine .held r mem (RunWrite.apply_id r v) (RunWrite.apply_policy r v) w rfl (id ▸ holder) fun done => ?_
    cases v with
    | syncCounts run counts hosts now => exact absurd done (written holder r mem id)
    | pauseAuth => cases done
    | finish run token cancelled hosts now =>
      obtain ⟨started, joined, stored⟩ := written
      obtain ⟨job, hasJob⟩ := Option.isSome_iff_exists.mp started
      refine ⟨joined, fun host => ?_⟩
      have counted := h.counted w cl claimed holder host
      rw [Dispatch.coordinator_started hasJob] at counted
      rw [h.policies w cl claimed r mem id, id, ← counted]
      exact hostStateOf_restore (h.named w) stored host
    | _ => cases sets
  exact ⟨h.update consistent rfl rfl runs, RunKept.step rfl rfl runs⟩

theorem Watched.insertStep (h : Watched s) (consistent : Consistent s.1) {u : Option Tid} {r : SecurityTestRun}
    (fresh : FreshRun r) :
    let s' : State × Watch := ({ s.1 with db := { s.1.db with
      runs := s.1.db.runs ++ [{ r with id := s.1.db.nextId }], nextId := s.1.db.nextId + 1 } }, s.2)
    Watched s' ∧ WatchStep u s s' := by
  have runs : ∀ r' ∈ s.1.db.runs ++ [{ r with id := s.1.db.nextId }], RunKept u s r' := by
    intro r' mem
    rcases List.mem_append.mp mem with old | new
    · exact .same r' old rfl rfl rfl fun done => done
    · rw [List.mem_singleton.mp new]
      refine .new rfl fresh.hosts ?_
      rcases fresh.status with ⟨_, status⟩ | ⟨_, status⟩ <;> exact fun done => nomatch status.symm.trans done
  exact ⟨h.update consistent rfl rfl runs, RunKept.step rfl rfl runs⟩

/-- Whether a run that is done is held by a worker that knows its own run is not. -/
theorem Open.not_held (h : Watched s) {w : Nat} {cl : ClaimedRun} (claimed : (s.1.workers w).claimed = some cl)
    (open_ : Open w cl s) : ¬∃ r ∈ s.1.db.runs, r.status = .done ∧ s.2.holder r.id = some w := by
  rintro ⟨r, mem, done, held⟩
  obtain ⟨cl', claimed', id⟩ := h.holders r.id w held
  obtain rfl : cl = cl' := Option.some.inj (claimed.symm.trans claimed')
  exact open_ (id ▸ held) r mem id.symm done

/-- **One step.** An operation of an orderly thread keeps the invariant. -/
theorem orderly_step (h : Watched s) (consistent : Consistent s.1) (orderly : Orderly t s o)
    (admitted : (successive.both hostsInStep).op t o (.op i) s = true)
    (posted : post t i s.1 o = some s₁) :
    Watched (s₁, s.2.next t o i s.1) ∧ WatchStep (some t) s (s₁, s.2.next t o i s.1) := by
  obtain ⟨alive, kept⟩ := Bool.and_eq_true_iff.mp admitted
  have current : superseded s t = false := by simpa [successive] using alive
  by_cases claim : ∃ worker queue now expires, o = .claimRun worker queue now expires
  · obtain ⟨worker, queue, now, expires, rfl⟩ := claim
    obtain ⟨w, rfl, idle⟩ := orderly
    exact h.claimStep idle kept posted
  by_cases record : ∃ host evidence, o = .recordOutcome host evidence
  · obtain ⟨host, evidence, rfl⟩ := record
    obtain ⟨w, k, job, rfl, running, hasJob⟩ := orderly
    refine h.recordStep running hasJob ?_ (fun never => ?_) posted
    · simpa [superseded, State.dispatch, Tid.dispatch?, (h.jobs w job hasJob).1] using current
    · simpa [hostsInStep, never, State.dispatch, Tid.dispatch?] using kept
  have watch : s.2.next t o i s.1 = s.2 :=
    Watch.next_other _ (fun _ _ _ _ is => claim ⟨_, _, _, _, is⟩) fun _ _ is => record ⟨_, _, is⟩
  rw [watch]
  cases post_change posted with
  | nothing => exact h.quiet _ rfl rfl rfl
  | present => exact h.quiet _ rfl rfl rfl
  | token => exact h.quiet _ rfl rfl rfl
  | insertRun r free => exact h.insertStep consistent orderly
  | claimRun worker queue now expires => exact absurd ⟨_, _, _, _, rfl⟩ claim
  | updateRun v => exact h.updateStep consistent orderly current
  | upsertCheckpoint => exact h.quiet _ rfl rfl rfl
  | claimCheckpoint => exact h.quiet _ rfl rfl rfl
  | updateCheckpoints => exact h.quiet _ rfl rfl rfl
  | insertResult => exact h.quiet _ rfl rfl rfl
  | relations => exact h.quiet _ rfl rfl rfl
  | startReplay => exact h.quiet _ rfl rfl rfl
  | recordHook => exact h.quiet _ rfl rfl rfl
  | complete w k exception own =>
    subst own
    refine h.dispatch (f := fun d => d.setSlot k (.finished exception)) rfl rfl rfl rfl (h.named w)
      (fun _ => rfl) (fun _ joined => ⟨?_, rfl⟩) fun k' other slot found running => ?_
    · intro slot mem
      obtain ⟨k', at_⟩ := List.mem_iff_getElem?.mp mem
      rw [setSlot_getElem] at at_
      split at at_
      · obtain ⟨old, _, rfl⟩ := Option.map_eq_some_iff.mp at_
        exact ⟨exception, rfl⟩
      · exact joined slot (List.mem_of_getElem? at_)
    · have ne : k ≠ k' := by
        rintro rfl
        exact other rfl
      exact ⟨slot, by rw [setSlot_getElem, if_neg ne, found], running⟩
  | memory _ w f own change =>
    cases change with
    | start job =>
      obtain ⟨v, rfl, claimed, noJob, policy⟩ := orderly
      cases own
      exact h.startStep claimed noJob policy
    | set e =>
      exact h.dispatch (f := fun d => { d with events := e :: d.events }) rfl rfl rfl rfl (h.named w)
        (fun _ => rfl) (fun _ joined => ⟨joined, rfl⟩)
        fun _ _ slot found running => ⟨slot, found, running⟩
    | noteAuthFailure errorType =>
      exact h.dispatch (f := fun d => { d with authFailure := d.authFailure.or (some errorType) })
        rfl rfl rfl rfl (h.named w) (fun _ => rfl) (fun _ joined => ⟨joined, rfl⟩)
        fun _ _ slot found running => ⟨slot, found, running⟩
    | closeHeartbeat =>
      exact h.dispatch (f := fun d => { d with heartbeatClosed := true }) rfl rfl rfl rfl (h.named w)
        (fun _ => rfl) (fun _ joined => ⟨joined, rfl⟩)
        fun _ _ slot found running => ⟨slot, found, running⟩
    | submit c =>
      obtain ⟨v, cl, rfl, claimed, open_⟩ := orderly
      cases own
      refine h.dispatch (f := fun d => { d with slots := d.slots ++ [{ checkpoint := c }] }) rfl rfl rfl
        rfl (h.named w) (fun _ => rfl) ?_ fun k _ slot found running => ⟨slot, ?_, running⟩
      · rintro (other | held)
        · exact absurd rfl other
        · exact absurd held (open_.not_held h claimed)
      · exact List.getElem?_append_left (List.getElem?_eq_some_iff.mp found).1 ▸ found
    | collect =>
      refine h.dispatch (f := Dispatch.collect) rfl rfl rfl rfl (h.named w) (fun _ => rfl)
        (fun _ joined => ⟨?_, rfl⟩) fun k _ slot found running => ⟨slot, ?_, running⟩
      · intro slot mem
        obtain ⟨old, inside, rfl⟩ := List.mem_map.mp mem
        split <;> exact joined old inside
      · simp [Dispatch.collect, found, running]
    | acquire host =>
      obtain ⟨v, k, rfl, running⟩ := orderly
      cases own
      refine h.dispatch
        (f := fun d => { d with hosts := putHostState d.hosts (hostStateOf d.hosts (hostKey host)) })
        rfl rfl rfl rfl ((h.named w).put (by simp)) (fun host' => hostStateOf_entered _ _ _)
        (fun _ joined => absurd joined running.not_joined)
        fun _ _ slot found running => ⟨slot, found, running⟩
    | recordOutcome host evidence => exact absurd ⟨_, _, rfl⟩ record

end

end

end ApiManger.Scheduler
