import ApiManger.Authorization.Schedule

/-!
# A matrix can be run again

Over every history of one policy version, a call returns a run that was final before it
exactly when the newest run was cancelled: the query for the latest terminal run leaves
cancelled runs out, so the key of the newest run comes out again. Every run but the
newest is done or failed, and each names the one before it.
-/

namespace ApiManger.Authorization
open Python Store Execution Scheduler

/-- The first of a list in descending order is the last of it, where that is increasing. -/
theorem head_insertionSort_of_increasing {α : Type} (f : α → Int) {l : List α}
    (increasing : l.Pairwise fun a b => f a < f b) :
    (l.insertionSort fun a b => f b ≤ f a).head? = l.getLast? := by
  rcases List.eq_nil_or_concat l with rfl | ⟨front, last, rfl⟩
  · rfl
  rw [List.concat_eq_append] at increasing ⊢
  have perm := List.perm_insertionSort (fun a b => f b ≤ f a) (front ++ [last])
  have sorted : (List.insertionSort (fun a b => f b ≤ f a) (front ++ [last])).Pairwise fun a b => f b ≤ f a := by
    have : Std.Total fun a b : α => f b ≤ f a := ⟨fun a b => le_total (f b) (f a)⟩
    have : IsTrans α fun a b => f b ≤ f a := ⟨fun _ _ _ first second => second.trans first⟩
    exact List.pairwise_insertionSort _ _
  cases shape : List.insertionSort (fun a b => f b ≤ f a) (front ++ [last]) with
  | nil =>
    rw [shape] at perm
    simp at perm
  | cons head rest =>
    rw [shape] at perm sorted
    have least : f last ≤ f head := by
      rcases List.mem_cons.mp (perm.mem_iff.mpr (show last ∈ front ++ [last] by simp)) with same | later
      · rw [same]
      · exact List.rel_of_pairwise_cons sorted later
    have is : head = last := by
      rcases List.mem_append.mp (perm.mem_iff.mp (List.mem_cons_self (a := head) (l := rest))) with early | here
      · have before := (List.pairwise_append.mp increasing).2.2 head early last (List.mem_singleton_self _)
        exact absurd before (not_lt.mpr least)
      · exact List.mem_singleton.mp here
    simp [is]

/-! ## Snapshots are found again -/

namespace MatrixStore

/-- The document stored under a template key. -/
def documentOf (s : MatrixStore) (key : String) : Option RequestSnapshot :=
  (s.snapshots.find? (·.templateKey == key)).map (·.document)

/-- Nothing stored is lost or changed. -/
structure Extends (s s' : MatrixStore) : Prop where
  documents : ∀ key d, s.documentOf key = some d → s'.documentOf key = some d
  runs : s'.runs = s.runs
  clock : s'.clock = s.clock
  nextId : s.nextId ≤ s'.nextId

variable {s : MatrixStore}

theorem Extends.trans {s' s'' : MatrixStore} (h : Extends s s') (h' : Extends s' s'') : Extends s s'' :=
  ⟨fun key d is => h'.documents key d (h.documents key d is), h'.runs.trans h.runs, h'.clock.trans h.clock,
    h.nextId.trans h'.nextId⟩

theorem ensureSnapshot_known {x : CaseSnapshot} {d : RequestSnapshot}
    (known : s.documentOf x.templateKey = some d) : s.ensureSnapshot x = (d, s) := by
  obtain ⟨found, here, rfl⟩ := Option.map_eq_some_iff.mp known
  simp only [ensureSnapshot, here]

theorem ensureSnapshot_extends (s : MatrixStore) (x : CaseSnapshot) :
    Extends s (s.ensureSnapshot x).2 ∧
      (s.ensureSnapshot x).2.documentOf x.templateKey = some (s.ensureSnapshot x).1 := by
  unfold ensureSnapshot
  split
  · next found here => exact ⟨⟨fun _ _ is => is, rfl, rfl, le_rfl⟩, by simp [documentOf, here]⟩
  · next absent =>
    refine ⟨⟨fun key d is => ?_, rfl, rfl, Nat.le_succ _⟩, ?_⟩
    · obtain ⟨found, here, rfl⟩ := Option.map_eq_some_iff.mp is
      simp [documentOf, List.find?_append, here]
    · simp [documentOf, List.find?_append, absent]

/-- A store in which every snapshot of a batch is known makes none. -/
theorem ensureSnapshots_spec {xs : List (Except PyError CaseSnapshot)} {s' : MatrixStore}
    {answer : Except PyError (List RequestSnapshot)} (made : ensureSnapshots xs s = (answer, s')) :
    Extends s s' ∧ ∀ found, answer = .ok found → ∀ t : MatrixStore,
      (∀ key d, s'.documentOf key = some d → t.documentOf key = some d) → ensureSnapshots xs t = (.ok found, t) := by
  induction xs generalizing s answer with
  | nil =>
    cases made
    exact ⟨⟨fun _ _ is => is, rfl, rfl, le_rfl⟩, fun found is t _ => by rw [← is]; rfl⟩
  | cons x rest ih =>
    cases x with
    | error e =>
      cases made
      exact ⟨⟨fun _ _ is => is, rfl, rfl, le_rfl⟩, fun found is => by cases is⟩
    | ok x =>
      obtain ⟨first, known⟩ := ensureSnapshot_extends s x
      simp only [ensureSnapshots] at made
      split at made
      · next found s'' tail =>
        cases made
        obtain ⟨later, again⟩ := ih tail
        refine ⟨first.trans later, fun all is t keeps => ?_⟩
        obtain rfl := Except.ok.inj is
        have here := ensureSnapshot_known (keeps _ _ (later.documents _ _ known))
        simp only [ensureSnapshots, here, again found rfl t keeps]
      · next e s'' tail =>
        cases made
        exact ⟨first.trans (ih tail).1, fun found is => by cases is⟩

end MatrixStore

/-! ## The runs of one plan -/

/-- A run the next call looks for as the latest terminal one. -/
def ScheduledMatrix.isTerminal (r : ScheduledMatrix) : Bool := MatrixStore.terminalStatuses.contains r.status

theorem ScheduledMatrix.final_of_terminal {r : ScheduledMatrix} (terminal : r.isTerminal = true) :
    r.status.isFinal = true := by
  simp only [isTerminal, MatrixStore.terminalStatuses, List.contains_iff_mem, List.mem_cons, List.not_mem_nil,
    or_false] at terminal
  exact RunStatus.isFinal_iff.mpr (by tauto)

theorem ScheduledMatrix.not_terminal {r : ScheduledMatrix} (terminal : r.isTerminal = false) :
    r.status.isFinal = true ↔ r.status = .cancelled := by
  simp only [isTerminal, MatrixStore.terminalStatuses, List.contains_eq_mem, List.mem_cons, List.not_mem_nil,
    or_false, decide_eq_false_iff_not, not_or] at terminal
  rw [RunStatus.isFinal_iff]
  tauto

/-- The policy, the snapshots and the snapshot ids of every call from here on. -/
structure Planned (m : MatrixProject) (version : String) (s : MatrixStore) (policy : AuthorizationPolicy)
    (found : List RequestSnapshot) (ids : List ObjectId) : Prop where
  checked : checkPolicy m version = .ok policy
  known : ∀ t : MatrixStore, (∀ key d, s.documentOf key = some d → t.documentOf key = some d) →
    MatrixStore.ensureSnapshots (m.caseSnapshots policy) t = (.ok found, t)
  batch : MatrixStore.checkBatch policy found = .ok ids

/-- The runs of the plan, in the order they were created. -/
structure Sequence (m : MatrixProject) (version : String) (s : MatrixStore) : Prop where
  planned : s.runs ≠ [] → ∃ policy found ids, Planned m version s policy found ids ∧ ∀ r ∈ s.runs,
    r.projectId = policy.projectId ∧ r.envId = policy.envId ∧ r.plan = matrixPlan policy found ∧
    r.identity.plan = matrixPlan policy found ∧ r.snapshotIds = ids
  increasing : s.runs.Pairwise (·.id < ·.id)
  below : ∀ r ∈ s.runs, r.id < s.nextId
  previous : ∀ r ∈ s.runs, ∀ p, r.identity.previousTerminalRun = some p → p < r.id
  past : ∀ r ∈ s.runs, r.status.isFinal = true → r.finishedAt ≤ s.clock
  newest : ∀ older r, s.runs = older ++ [r] → (∀ q ∈ older, q.isTerminal = true) ∧
    older.Pairwise (·.finishedAt < ·.finishedAt) ∧
    r.identity.previousTerminalRun = older.getLast?.map (·.id) ∧
    (r.status.isFinal = true → ∀ q ∈ older, q.finishedAt < r.finishedAt)

section
variable {m : MatrixProject} {version : String} {s : MatrixStore}

variable {policy : AuthorizationPolicy} {found : List RequestSnapshot} {ids : List ObjectId}
  {older : List ScheduledMatrix} {r : ScheduledMatrix}

/-- A planned call comes down to its enqueue. -/
theorem schedule_eq
    (planned : Planned m version s policy found ids) :
    scheduleAuthorizationMatrix m version s = s.enqueue policy
      ⟨matrixPlan policy found, s.latestTerminal policy (matrixPlan policy found)⟩ ids := by
  simp only [scheduleAuthorizationMatrix, planned.checked, planned.known s fun _ _ is => is, planned.batch]

/-- The latest terminal run is the newest, or the one before it. -/
theorem Sequence.latest (seq : Sequence m version s) (runs : s.runs = older ++ [r])
    (own : ∀ r ∈ s.runs, r.projectId = policy.projectId ∧ r.envId = policy.envId ∧
      r.plan = matrixPlan policy found ∧ r.identity.plan = matrixPlan policy found ∧ r.snapshotIds = ids) :
    s.latestTerminal policy (matrixPlan policy found) =
      if r.isTerminal then some r.id else older.getLast?.map (·.id) := by
  obtain ⟨terminal, ordered, _, later⟩ := seq.newest older r runs
  have selected : (s.runs.filter fun r => r.projectId == policy.projectId && r.envId == policy.envId &&
      r.plan == matrixPlan policy found && MatrixStore.terminalStatuses.contains r.status) =
      s.runs.filter (·.isTerminal) := by
    refine List.filter_congr fun q mem => ?_
    obtain ⟨project, env, plan, _⟩ := own q mem
    simp [project, env, plan, ScheduledMatrix.isTerminal]
  have front : older.filter (·.isTerminal) = older := List.filter_eq_self.mpr terminal
  rw [MatrixStore.latestTerminal, selected, runs, List.filter_append, front]
  cases done : r.isTerminal with
  | true =>
    have increasing : (older ++ [r]).Pairwise (·.finishedAt < ·.finishedAt) := by
      refine List.pairwise_append.mpr ⟨ordered, List.pairwise_singleton _ _, fun q mem last here => ?_⟩
      obtain rfl := List.mem_singleton.mp here
      exact later (ScheduledMatrix.final_of_terminal done) q mem
    have head := head_insertionSort_of_increasing ScheduledMatrix.finishedAt increasing
    simp only [List.filter_cons, done, if_true, List.filter_nil, head]
    simp
  | false =>
    have head := head_insertionSort_of_increasing ScheduledMatrix.finishedAt ordered
    simp only [List.filter_cons, done, List.filter_nil, List.append_nil, Bool.false_eq_true, if_false, head]

/-- The run a call creates. -/
def newMatrix (s : MatrixStore) (policy : AuthorizationPolicy) (identity : MatrixIdentity) (ids : List ObjectId) :
    ScheduledMatrix where
  id := s.nextId
  projectId := policy.projectId
  envId := policy.envId
  plan := identity.plan
  identity := identity
  snapshotIds := ids

theorem sameSnapshots_self (ids : List ObjectId) : sameSnapshots ids ids = true := by
  simp [sameSnapshots]

/-- **The next call.** It creates a run once the newest is done or failed, and returns the newest
until then. -/
theorem Sequence.next (seq : Sequence m version s)
    (runs : s.runs = older ++ [r]) : ∃ policy found ids, Planned m version s policy found ids ∧
    if r.isTerminal then
      scheduleAuthorizationMatrix m version s = (.ok (s.nextId, true), { s with
        runs := s.runs ++ [newMatrix s policy ⟨matrixPlan policy found, some r.id⟩ ids], nextId := s.nextId + 1 })
    else (scheduleAuthorizationMatrix m version s).1 = .ok (r.id, false) ∧
      ((scheduleAuthorizationMatrix m version s).2 = s ∨ r.status = .preparing ∧
        (scheduleAuthorizationMatrix m version s).2 = { s with
          runs := s.runs.map fun q => if q.id == r.id then { q with status := .queued } else q }) := by
  obtain ⟨policy, found, ids, planned, own⟩ := seq.planned (by simp [runs])
  have memR : r ∈ s.runs := by simp [runs]
  refine ⟨policy, found, ids, planned, ?_⟩
  rw [schedule_eq planned, seq.latest runs own]
  cases done : r.isTerminal with
  | true =>
    -- no run names the newest as the one before it
    have absent : s.runs.find? (·.identity == ⟨matrixPlan policy found, some r.id⟩) = none := by
      refine List.find?_eq_none.mpr fun q mem same => ?_
      have before := seq.previous q mem r.id (by rw [beq_iff_eq.mp same])
      rw [runs] at mem
      have upTo : q.id ≤ r.id := by
        rcases List.mem_append.mp mem with early | here
        · have lt := (List.pairwise_append.mp (runs ▸ seq.increasing)).2.2 q early r (List.mem_singleton_self _)
          exact lt.le
        · exact (congrArg _ (List.mem_singleton.mp here)).le
      exact absurd before (not_lt.mpr upTo)
    simp only [if_true, MatrixStore.enqueue, absent, newMatrix]
  | false =>
    obtain ⟨_, _, link, _⟩ := seq.newest older r runs
    obtain ⟨_, _, _, plan, snapshots⟩ := own r memR
    have identity : r.identity = ⟨matrixPlan policy found, older.getLast?.map (·.id)⟩ := by
      rw [← plan, ← link]
    have apart : older.find? (·.identity == ⟨matrixPlan policy found, older.getLast?.map (·.id)⟩) = none := by
      refine List.find?_eq_none.mpr fun q mem same => ?_
      have same := beq_iff_eq.mp same
      obtain ⟨front, last, rfl⟩ := (List.eq_nil_or_concat older).resolve_left (List.ne_nil_of_mem mem)
      have lt := seq.previous q (by rw [runs]; exact List.mem_append_left _ mem) last.id (by simp [same])
      have upTo : q.id ≤ last.id := by
        rw [List.concat_eq_append] at runs mem
        rcases List.mem_append.mp mem with early | here
        · have increasing := (List.pairwise_append.mp (runs ▸ seq.increasing)).1
          exact ((List.pairwise_append.mp increasing).2.2 q early last (List.mem_singleton_self _)).le
        · exact (congrArg _ (List.mem_singleton.mp here)).le
      exact absurd lt (not_lt.mpr upTo)
    have here : s.runs.find? (·.identity == ⟨matrixPlan policy found, older.getLast?.map (·.id)⟩) = some r := by
      rw [runs, List.find?_append, apart, Option.none_or]
      simp [identity]
    simp only [Bool.false_eq_true, if_false, MatrixStore.enqueue, here, snapshots, sameSnapshots_self, Bool.not_true]
    by_cases preparing : r.status = .preparing
    · simp [preparing]
    · simp [preparing]

/-! ## Every history -/

theorem Sequence.empty (none_ : s.runs = []) : Sequence m version s := by
  refine ⟨fun some_ => absurd none_ some_, ?_, ?_, ?_, ?_, fun older r runs => ?_⟩
  · rw [none_]
    exact List.Pairwise.nil
  · rw [none_]
    exact fun r mem => by cases mem
  · rw [none_]
    exact fun r mem => by cases mem
  · rw [none_]
    exact fun r mem => by cases mem
  · rw [none_] at runs
    simp at runs

/-- An update of the runs that leaves those that are done or failed, and finishes a run later than
any before it. -/
theorem Sequence.update (seq : Sequence m version s) {f : ScheduledMatrix → ScheduledMatrix} (clock : Timestamp)
    (same : ∀ r, (f r).id = r.id ∧ (f r).projectId = r.projectId ∧ (f r).envId = r.envId ∧
      (f r).plan = r.plan ∧ (f r).identity = r.identity ∧ (f r).snapshotIds = r.snapshotIds)
    (later : s.clock ≤ clock) (settled : ∀ r ∈ s.runs, r.isTerminal = true → f r = r)
    (finished : ∀ r ∈ s.runs, (f r).status.isFinal = true →
      f r = r ∨ (f r).finishedAt = clock ∧ s.clock < clock) :
    Sequence m version { s with runs := s.runs.map f, clock := clock } := by
  have member {P : ScheduledMatrix → Prop} (all : ∀ r ∈ s.runs, P (f r)) : ∀ r ∈ s.runs.map f, P r := by
    intro r' mem
    obtain ⟨r, here, rfl⟩ := List.mem_map.mp mem
    exact all r here
  refine ⟨fun some_ => ?_, ?_, member ?_, member ?_, member ?_, fun older' r' runs' => ?_⟩
  · obtain ⟨policy, found, ids, planned, own⟩ := seq.planned fun none_ => some_ (by simp [none_])
    refine ⟨policy, found, ids, ⟨planned.checked, planned.known, planned.batch⟩, member fun r mem => ?_⟩
    obtain ⟨_, project, env, plan, identity, snapshots⟩ := same r
    rw [project, env, plan, identity, snapshots]
    exact own r mem
  · refine List.pairwise_map.mpr (seq.increasing.imp fun {a b} lt => ?_)
    rw [(same a).1, (same b).1]
    exact lt
  · intro r mem
    rw [(same r).1]
    exact seq.below r mem
  · intro r mem
    rw [(same r).1, (same r).2.2.2.2.1]
    exact seq.previous r mem
  · intro r mem final
    rcases finished r mem final with still | ⟨now, _⟩
    · rw [still] at final ⊢
      exact (seq.past r mem final).trans later
    · exact now.le
  · obtain ⟨older, last, runs, rfl, is⟩ := List.map_eq_append_iff.mp runs'
    obtain ⟨r, rfl, rfl⟩ := List.map_eq_singleton_iff.mp is
    obtain ⟨terminal, ordered, link, before⟩ := seq.newest older r runs
    have front : older.map f = older := by
      refine (List.map_congr_left fun q mem => ?_).trans (List.map_id _)
      exact settled q (by rw [runs]; exact List.mem_append_left _ mem) (terminal q mem)
    rw [front, (same r).2.2.2.2.1]
    refine ⟨terminal, ordered, link, fun final q mem => ?_⟩
    have memR : r ∈ s.runs := by simp [runs]
    have memQ : q ∈ s.runs := by simp [runs, mem]
    rcases finished r memR final with still | ⟨now, passed⟩
    · rw [still] at final ⊢
      exact before final q mem
    · rw [now]
      exact (seq.past q memQ (ScheduledMatrix.final_of_terminal (terminal q mem))).trans_lt passed

/-- A run created once the newest is done or failed. -/
theorem Sequence.created (seq : Sequence m version s)
    (runs : s.runs = older ++ [r]) (terminal : r.isTerminal = true) (planned : Planned m version s policy found ids) :
    Sequence m version { s with
      runs := s.runs ++ [newMatrix s policy ⟨matrixPlan policy found, some r.id⟩ ids], nextId := s.nextId + 1 } := by
  obtain ⟨policy', found', ids', planned', own⟩ := seq.planned (by simp [runs])
  obtain rfl : policy' = policy := Except.ok.inj (planned'.checked.symm.trans planned.checked)
  obtain rfl : found' = found := by
    have first := planned'.known s fun _ _ is => is
    rw [planned.known s fun _ _ is => is] at first
    exact (Except.ok.inj (Prod.mk.inj first).1).symm
  obtain rfl : ids' = ids := Except.ok.inj (planned'.batch.symm.trans planned.batch)
  obtain ⟨terminals, ordered, _, before⟩ := seq.newest older r runs
  have memR : r ∈ s.runs := by simp [runs]
  have split {P : ScheduledMatrix → Prop} {new : ScheduledMatrix} (old : ∀ q ∈ s.runs, P q) (here : P new) :
      ∀ q ∈ s.runs ++ [new], P q := by
    intro q mem
    rcases List.mem_append.mp mem with early | late
    · exact old q early
    · exact List.mem_singleton.mp late ▸ here
  refine ⟨fun _ => ?_, ?_, split ?_ ?_, split ?_ ?_, split ?_ ?_, fun older' r' runs' => ?_⟩
  · exact ⟨policy', found', ids', ⟨planned.checked, planned.known, planned.batch⟩,
      split own ⟨rfl, rfl, rfl, rfl, rfl⟩⟩
  · refine List.pairwise_append.mpr ⟨seq.increasing, List.pairwise_singleton _ _, fun q mem last here => ?_⟩
    obtain rfl := List.mem_singleton.mp here
    exact seq.below q mem
  · exact fun q mem => (seq.below q mem).trans (Nat.lt_succ_self _)
  · exact Nat.lt_succ_self _
  · exact seq.previous
  · intro p is
    obtain rfl := Option.some.inj is
    exact seq.below r memR
  · exact seq.past
  · intro final
    simp [newMatrix] at final
  · obtain ⟨rfl, is⟩ := List.append_inj' runs' rfl
    obtain rfl := (List.cons.inj is).1
    refine ⟨?_, ?_, ?_, fun final => by simp [newMatrix] at final⟩
    · rw [runs]
      intro q mem
      rcases List.mem_append.mp mem with early | late
      · exact terminals q early
      · exact List.mem_singleton.mp late ▸ terminal
    · rw [runs]
      refine List.pairwise_append.mpr ⟨ordered, List.pairwise_singleton _ _, fun q mem last here => ?_⟩
      obtain rfl := List.mem_singleton.mp here
      exact before (ScheduledMatrix.final_of_terminal terminal) q mem
    · simp [newMatrix, runs]

/-- The first call: it fails, or creates the first run. -/
theorem Sequence.first (none_ : s.runs = []) : Sequence m version (scheduleAuthorizationMatrix m version s).2 := by
  unfold scheduleAuthorizationMatrix
  split
  · exact .empty none_
  · next policy checked =>
    split
    · next e s' made =>
      obtain ⟨extends_, _⟩ := MatrixStore.ensureSnapshots_spec made
      exact .empty (extends_.runs.trans none_)
    · next found s' made =>
      obtain ⟨extends_, again⟩ := MatrixStore.ensureSnapshots_spec made
      have none_ : s'.runs = [] := extends_.runs.trans none_
      dsimp only
      split
      · exact .empty none_
      · next ids batch =>
        have latest : s'.latestTerminal policy (matrixPlan policy found) = none := by
          simp [MatrixStore.latestTerminal, none_]
        simp only [latest, MatrixStore.enqueue, none_, List.find?_nil, List.nil_append]
        refine ⟨fun _ => ⟨policy, found, ids, ⟨checked, again found rfl, batch⟩, ?_⟩, ?_, ?_, ?_, ?_, fun older r runs => ?_⟩
        · exact fun r mem => List.mem_singleton.mp mem ▸ ⟨rfl, rfl, rfl, rfl, rfl⟩
        · exact List.pairwise_singleton _ _
        · intro r mem
          rw [List.mem_singleton.mp mem]
          exact Nat.lt_succ_self _
        · intro r mem p is
          rw [List.mem_singleton.mp mem] at is
          cases is
        · intro r mem final
          rw [List.mem_singleton.mp mem] at final
          simp at final
        · obtain ⟨rfl, is⟩ := List.append_inj' (show [] ++ [_] = older ++ [r] from runs) rfl
          obtain rfl := (List.cons.inj is).1
          refine ⟨?_, List.Pairwise.nil, rfl, ?_⟩
          · intro q mem
            cases mem
          · intro _ q mem
            cases mem

theorem Sequence.schedule (seq : Sequence m version s) :
    Sequence m version (scheduleAuthorizationMatrix m version s).2 := by
  rcases List.eq_nil_or_concat s.runs with none_ | ⟨older, r, runs⟩
  · exact .first none_
  · rw [List.concat_eq_append] at runs
    obtain ⟨policy, found, ids, planned, next⟩ := seq.next runs
    split at next
    · next terminal =>
      rw [next]
      exact seq.created runs terminal planned
    · next active =>
      rcases next.2 with same | ⟨preparing, queued⟩
      · rw [same]
        exact seq
      · rw [queued]
        refine seq.update s.clock (fun q => ?_) le_rfl (fun q mem terminal => ?_) fun q mem final => ?_
        · split <;> exact ⟨rfl, rfl, rfl, rfl, rfl, rfl⟩
        · split
          · next same =>
            have is : q = r := by
              refine List.inj_on_of_nodup_map (f := (·.id)) ?_ mem (by simp [runs]) (beq_iff_eq.mp same)
              exact List.pairwise_map.mpr (seq.increasing.imp fun lt => lt.ne)
            rw [is] at terminal
            exact absurd terminal active
          · rfl
        · split at final
          · simp at final
          · exact .inl (by simp_all)

/-- **Every history** keeps the sequence of the runs. -/
theorem sequence_of_history (history : MatrixHistory m version s) : Sequence m version s := by
  induction history with
  | start snapshots nextId => exact .empty rfl
  | schedule _ ih => exact ih.schedule
  | move _ run active ih =>
    refine ih.update _ (fun r => ?_) le_rfl (fun r _ terminal => ?_) fun r _ final => ?_
    · split <;> exact ⟨rfl, rfl, rfl, rfl, rfl, rfl⟩
    · simp [ScheduledMatrix.final_of_terminal terminal]
    · split at final
      · rw [active] at final
        cases final
      · next other => exact .inl (by rw [if_neg other])
  | @finish s _ run status final_ elapsed ih =>
    have later : s.clock < s.clock + (elapsed : Int) + 1 := by
      have grown := Int.le_add_of_nonneg_right (a := s.clock) (Int.natCast_nonneg elapsed)
      exact Int.lt_add_one_of_le grown
    refine ih.update _ (fun r => ?_) later.le (fun r _ terminal => ?_) fun r _ final => ?_
    · split <;> exact ⟨rfl, rfl, rfl, rfl, rfl, rfl⟩
    · simp [ScheduledMatrix.final_of_terminal terminal]
    · split
      · exact .inr ⟨rfl, later⟩
      · exact .inl rfl

end

/-- What a call owes: no run that was final before it, and the run that is not final, if there is one. -/
structure Rerun (s : MatrixStore) (answer : ObjectId) : Prop where
  fresh : ∀ r ∈ s.runs, r.id = answer → r.status.isFinal = false
  same : ∀ r ∈ s.runs, r.status.isFinal = false → answer = r.id

def newestCancelled (s : MatrixStore) : Bool := s.runs.getLast?.any (·.status == .cancelled)

/-- **Re-running a matrix.** After any history a call returns no run that was final before it, and
the run still under way if there is one, if and only if the newest run was not cancelled. -/
theorem matrix_rerun_iff (m : MatrixProject) (version : String) (s s' : MatrixStore)
    (history : MatrixHistory m version s) (answer : ObjectId) (created : Bool)
    (call : scheduleAuthorizationMatrix m version s = (.ok (answer, created), s')) :
    Rerun s answer ↔ newestCancelled s = false := by
  have seq := sequence_of_history history
  rcases List.eq_nil_or_concat s.runs with none_ | ⟨older, r, runs⟩
  · have never : ∀ {P : Prop} {q : ScheduledMatrix}, q ∈ s.runs → P := by
      intro P q mem
      rw [none_] at mem
      cases mem
    exact iff_of_true ⟨fun q mem => never mem, fun q mem => never mem⟩ (by simp [newestCancelled, none_])
  rw [List.concat_eq_append] at runs
  have memR : r ∈ s.runs := by simp [runs]
  have newest : newestCancelled s = (r.status == .cancelled) := by simp [newestCancelled, runs]
  obtain ⟨terminals, _⟩ := seq.newest older r runs
  have final : ∀ q ∈ s.runs, q.status.isFinal = false → q = r := by
    intro q mem active
    rw [runs] at mem
    rcases List.mem_append.mp mem with early | here
    · rw [ScheduledMatrix.final_of_terminal (terminals q early)] at active
      cases active
    · exact List.mem_singleton.mp here
  obtain ⟨policy, found, ids, _, next⟩ := seq.next runs
  rw [call] at next
  cases terminal : r.isTerminal with
  | true =>
    simp only [terminal, if_true, Prod.mk.injEq, Except.ok.injEq] at next
    obtain ⟨⟨rfl, _⟩, _⟩ := next
    have done := ScheduledMatrix.final_of_terminal terminal
    refine iff_of_true ⟨fun q mem is => ?_, fun q mem active => ?_⟩ ?_
    · exact absurd (seq.below q mem) (is ▸ lt_irrefl _)
    · rw [final q mem active, done] at active
      cases active
    · rw [newest, beq_eq_false_iff_ne]
      intro cancelled
      simp [ScheduledMatrix.isTerminal, MatrixStore.terminalStatuses, cancelled] at terminal
  | false =>
    simp only [terminal, Bool.false_eq_true, if_false, Except.ok.injEq, Prod.mk.injEq] at next
    obtain ⟨⟨rfl, _⟩, _⟩ := next
    rw [newest, beq_eq_false_iff_ne]
    refine ⟨fun rerun cancelled => ?_, fun active => ⟨fun q mem is => ?_, fun q mem idle => ?_⟩⟩
    · have fresh := rerun.fresh r memR rfl
      rw [(ScheduledMatrix.not_terminal terminal).mpr cancelled] at fresh
      cases fresh
    · have same : q = r := by
        refine List.inj_on_of_nodup_map (f := (·.id)) ?_ mem memR is
        exact List.pairwise_map.mpr (seq.increasing.imp fun lt => lt.ne)
      rw [same, Bool.eq_false_iff]
      exact fun final => active ((ScheduledMatrix.not_terminal terminal).mp final)
    · rw [final q mem idle]

/-! ## A cancelled matrix -/

/-- A project with one policy version, one principal and one case. -/
def matrixProject : MatrixProject where
  policies := [{ policyKey := "k", policyVersionId := "v1", projectId := "p", envId := "e", name := "n",
                 lifecycle := .active, principalIds := ["a"], relationIds := ["r"]
                 principalSnapshots := [[("principal_id", .str "a"), ("profile_id", .str "f"),
                   ("account_key", .str "acc"), ("auth_profile_revision_id", .str "rev")]] }]
  environments := [("p", "e")]
  profiles := [{ profileId := "f", projectId := "p", envId := "e", accountKey := "acc", currentRevisionId := "rev" }]
  caseSnapshots _ := [.ok ⟨"authorization-matrix-plan:1", { id := 0, projectId := "p", envId := "e" }⟩]

/-- The first run, cancelled or done. -/
def afterFirst (status : RunStatus) : MatrixStore :=
  (scheduleAuthorizationMatrix matrixProject "v1" { nextId := 1 }).2.finish 2 status 0

theorem afterFirst_history {status : RunStatus} (final : status.isFinal = true) :
    MatrixHistory matrixProject "v1" (afterFirst status) :=
  .finish (.schedule (.start [] 1)) 2 final 0

def nextAnswer (s : MatrixStore) : Option (ObjectId × Bool) :=
  (scheduleAuthorizationMatrix matrixProject "v1" s).1.toOption

theorem matrix_not_rerun : ¬ ∀ (m : MatrixProject) (version : String) (s s' : MatrixStore)
    (answer : ObjectId) (created : Bool), MatrixHistory m version s →
    scheduleAuthorizationMatrix m version s = (.ok (answer, created), s') → Rerun s answer := by
  intro rerun
  have first : nextAnswer (afterFirst .cancelled) = some (2, false) := by decide +kernel
  have cancelled : (afterFirst .cancelled).runs.any (fun r => r.id == 2 && r.status.isFinal) = true := by
    decide +kernel
  cases call : scheduleAuthorizationMatrix matrixProject "v1" (afterFirst .cancelled) with
  | mk answer s' =>
    simp only [nextAnswer, call] at first
    cases answer with
    | error e => cases first
    | ok answer =>
      obtain rfl := Option.some.inj first
      have owed := rerun _ _ _ s' 2 false (afterFirst_history rfl) call
      obtain ⟨r, mem, is⟩ := List.any_eq_true.mp cancelled
      simp only [Bool.and_eq_true, beq_iff_eq] at is
      have fresh := owed.fresh r mem is.1
      rw [is.2] at fresh
      cases fresh

/-- After a run that is done, the next call creates one. -/
theorem matrix_rerun_done : ∃ s', scheduleAuthorizationMatrix matrixProject "v1" (afterFirst .done) =
    (.ok (3, true), s') ∧ Rerun (afterFirst .done) 3 := by
  have first : nextAnswer (afterFirst .done) = some (3, true) := by decide +kernel
  cases call : scheduleAuthorizationMatrix matrixProject "v1" (afterFirst .done) with
  | mk answer s' =>
    simp only [nextAnswer, call] at first
    cases answer with
    | error e => cases first
    | ok answer =>
      obtain rfl := Option.some.inj first
      exact ⟨s', rfl, (matrix_rerun_iff _ _ _ s' (afterFirst_history rfl) 3 true call).mpr (by decide +kernel)⟩

end ApiManger.Authorization
