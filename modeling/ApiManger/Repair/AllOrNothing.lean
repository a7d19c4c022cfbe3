import ApiManger.Repair.Rollback
import Mathlib.Data.List.Dedup

/-!
# Which rebinds are all or nothing

`checkRebind` fixes what the rest of the call works on: the run, its snapshots in its
order and its checkpoints in theirs. From there a rebind ends in one of five ways, and
each is compared with what the call owes.
-/

namespace ApiManger.Repair
open Python Store Collection

/-! ## What the checks establish -/

/-- The facts about a plan that passed the checks. -/
structure Checked (s : RebindStore) (runId : ObjectId) (p : RebindPlan) : Prop where
  run : p.run ∈ s.runs
  runId : p.run.id = runId
  paused : p.run.status = .paused
  waiting : p.run.dependencyId = p.previousRevisionId ∧ p.run.authProfileRevisionId = p.previousRevisionId
  snapshotIds : p.snapshots.map (·.id) = p.run.snapshotIds
  stored : ∀ x ∈ p.snapshots, x ∈ s.snapshots
  distinct : p.run.snapshotIds.Nodup
  checkpoints : (s.checkpointsOf p.run.id).map (·.snapshotId) = p.run.snapshotIds

theorem filterMap_find_id {found : List RebindSnapshot} {ids : List ObjectId}
    (all : ∀ id ∈ ids, ∃ x ∈ found, x.id = id) :
    (ids.filterMap fun id => found.find? (·.id == id)).map (·.id) = ids := by
  induction ids with
  | nil => rfl
  | cons id rest ih =>
    obtain ⟨x, mem, is⟩ := all id (List.mem_cons_self ..)
    cases here : found.find? (·.id == id) with
    | none =>
      have never := List.find?_eq_none.mp here x mem
      simp [is] at never
    | some y =>
      have same : y.id = id := by simpa using List.find?_some here
      rw [List.filterMap_cons, here, List.map_cons, same, ih fun i later => all i (List.mem_cons_of_mem _ later)]

variable {s : RebindStore} {run : RebindRun}

/-- The snapshots of the run are all there, each once. -/
theorem RebindStore.snapshotsOf_spec {xs : List RebindSnapshot}
    (found : s.snapshotsOf run = .ok xs) :
    xs.map (·.id) = run.snapshotIds ∧ run.snapshotIds.Nodup ∧ ∀ x ∈ xs, x ∈ s.snapshots := by
  unfold snapshotsOf at found
  dsimp only at found
  split at found
  · cases found
  · next complete =>
    cases found
    rw [not_or, not_not] at complete
    obtain ⟨_, complete⟩ := complete
    have among : ((s.snapshots.filter fun x => run.snapshotIds.contains x.id).map (·.id)).dedup ⊆ run.snapshotIds := by
      intro id mem
      obtain ⟨x, here, rfl⟩ := List.mem_map.mp (List.mem_dedup.mp mem)
      simpa using (List.mem_filter.mp here).2
    have perm := (List.subperm_of_subset (List.nodup_dedup _) among).perm_of_length_le complete.ge
    refine ⟨filterMap_find_id fun id mem => ?_, perm.nodup_iff.mp (List.nodup_dedup _), ?_⟩
    · exact List.mem_map.mp (List.mem_dedup.mp (perm.mem_iff.mpr mem))
    · intro x mem
      obtain ⟨id, _, here⟩ := List.mem_filterMap.mp mem
      exact (List.mem_filter.mp (List.mem_of_find?_eq_some here)).1

theorem map_eq_of_zip {α β γ : Type} {f : α → γ} {g : β → γ} {l : List α} {m : List β}
    (length : l.length = m.length) (same : ∀ e ∈ l.zip m, f e.1 = g e.2) : l.map f = m.map g := by
  induction l generalizing m with
  | nil =>
    cases m with
    | nil => rfl
    | cons b m => simp at length
  | cons a l ih =>
    cases m with
    | nil => simp at length
    | cons b m =>
      have first := same (a, b) (List.mem_cons_self ..)
      have rest := ih (by simpa using length) fun e mem => same e (List.mem_cons_of_mem _ mem)
      rw [List.map_cons, List.map_cons, first, rest]

theorem RebindStore.checkCheckpoints_spec (passed : s.checkCheckpoints run = .ok ()) :
    (s.checkpointsOf run.id).map (·.snapshotId) = run.snapshotIds := by
  unfold checkCheckpoints at passed
  dsimp only at passed
  split at passed
  · cases passed
  · next length =>
    split at passed
    · cases passed
    · next all =>
      simp only [Bool.not_eq_true', Bool.not_eq_false, List.all_eq_true] at all
      have mapped := map_eq_of_zip (f := (·.snapshotId)) (g := id) (not_not.mp length) fun e mem => by
        have is := all e mem
        simp only [untouched, Bool.and_eq_true, beq_iff_eq] at is
        exact is.2
      rw [mapped, List.map_id]

theorem RebindStore.checkRun_spec {candidate : RepairCandidate} {profile : AuthProfile} (passed : s.checkRun candidate profile run = .ok ()) :
    run.dependencyId = candidate.previousProfileRevisionId ∧
      run.authProfileRevisionId = candidate.previousProfileRevisionId := by
  unfold checkRun at passed
  split at passed
  · cases passed
  · split at passed
    · cases passed
    · next waiting =>
      rw [not_or, not_or, not_not, not_not, not_not] at waiting
      exact waiting.2

/-- **The checks** of a paused run: they raise, or leave a plan for it. -/
theorem RebindStore.checkRebind_spec (runs : Distinct (·.id) s.runs)
    (mem : run ∈ s.runs) (managed : run.schedulerManaged = true) (paused : run.status = .paused)
    {candidateId : String} {found : RebindPlan ⊕ RebindRun} (passed : s.checkRebind (some run.id) candidateId = .ok found) :
    ∃ p, found = .inl p ∧ p.run = run ∧ Checked s run.id p := by
  unfold checkRebind at passed
  dsimp only at passed
  split at passed
  · cases passed
  split at passed
  · cases passed
  next candidate _ _ profile _ =>
  obtain ⟨chain, _, passed⟩ := bind_eq_ok.mp passed
  have here : s.pausedRun run.id chain.revision.profileRevisionId = .ok (.inl run) := by
    unfold pausedRun
    cases first : s.runs.find? fun r => r.id == run.id && r.schedulerManaged && r.status == .paused with
    | none =>
      have never := List.find?_eq_none.mp first run mem
      simp [managed, paused] at never
    | some r =>
      have is := List.find?_some first
      simp only [Bool.and_eq_true, beq_iff_eq] at is
      have same := runs.eq_of_key (List.mem_of_find?_eq_some first) mem is.1.1
      simp [same]
  rw [here] at passed
  obtain ⟨_, same, passed⟩ := bind_eq_ok.mp passed
  cases same
  dsimp only at passed
  obtain ⟨_, checked, passed⟩ := bind_eq_ok.mp passed
  obtain ⟨xs, snapshots, passed⟩ := bind_eq_ok.mp passed
  obtain ⟨_, untouched, passed⟩ := bind_eq_ok.mp passed
  cases passed
  obtain ⟨ids, distinct, stored⟩ := snapshotsOf_spec snapshots
  exact ⟨_, rfl, rfl, mem, rfl, paused, checkRun_spec checked, ids, stored, distinct, checkCheckpoints_spec untouched⟩

/-! ## What the call owes -/

/-- The run as a returned rebind owes it: the checkpoints follow the snapshot ids, each the old
snapshot or a clone of it, and no stored snapshot was edited. -/
structure Bound (s s' : RebindStore) (old run : RebindRun) : Prop where
  checkpoints : (s'.checkpointsOf run.id).map (·.snapshotId) = run.snapshotIds
  snapshots : List.Forall₂ (fun id id' => id' = id ∨ ∃ a ∈ s.snapshots, ∃ b ∈ s'.snapshots,
    a.id = id ∧ b.id = id' ∧ SameButAuth a b) old.snapshotIds run.snapshotIds
  kept : ∀ x ∈ s.snapshots, x ∈ s'.snapshots

/-- A call that raises leaves the runs, the checkpoints and the snapshots; one that returns has
bound the run. -/
structure AllOrNothing (s : RebindStore) (run : RebindRun) (outcome : Except PyError (Option RebindRun) × RebindStore) :
    Prop where
  raised : ∀ e, outcome.1 = .error e →
    outcome.2.runs = s.runs ∧ outcome.2.checkpoints = s.checkpoints ∧ outcome.2.snapshots = s.snapshots
  returned : ∀ bound, outcome.1 = .ok bound → ∃ run', bound = some run' ∧ Bound s outcome.2 run run'

namespace RebindPlan

/-- Every guarded remap matches a checkpoint. -/
def remapsMatch (p : RebindPlan) (s : RebindStore) : Bool :=
  (touchedAt p 0 p.snapshots).all fun e => s.checkpoints.any (Remap.matches ⟨e.1, 0, e.2⟩ p.run.id)

/-- The fields of the run that the compensation does not put back have the values it leaves. -/
def sameIdentity (p : RebindPlan) : Bool :=
  p.run.profileId == p.profile.profileId && p.run.accountId == p.chain.revision.projectAccountKey &&
    p.run.authProviderId == authRecipeProviderId && p.run.authRealmRevisionId == p.chain.realm.realmRevisionId &&
    p.run.authAdapterVersionId == p.chain.realm.adapterVersionId &&
    p.run.authContextRef == p.previousRevisionId && p.run.dependencyRevisionId == p.previousRevisionId

/-- What the rest of the call can undo. -/
def restorable (p : RebindPlan) (s : RebindStore) : Bool :=
  if !p.snapshots.all p.readable then (p.snapshots.takeWhile p.readable).all fun x => !p.touches x
  else !p.snapshots.any p.touches || !p.runMatches p.run || p.remapsMatch s || p.sameIdentity

theorem switchBack_eq {p : RebindPlan} (ids : List ObjectId) (waiting : p.run.dependencyId = p.previousRevisionId ∧
    p.run.authProfileRevisionId = p.previousRevisionId) :
    p.switchBack (p.switchRun ids p.run) = p.run ↔ p.sameIdentity = true := by
  simp only [sameIdentity, Bool.and_eq_true, beq_iff_eq]
  refine ⟨fun same => ?_, fun same => ?_⟩
  · refine ⟨⟨⟨⟨⟨⟨?_, ?_⟩, ?_⟩, ?_⟩, ?_⟩, ?_⟩, ?_⟩ <;> rw [← same] <;> rfl
  · obtain ⟨⟨⟨⟨⟨⟨profile, account⟩, provider⟩, realm⟩, adapter⟩, context⟩, dependency⟩ := same
    obtain ⟨waits, revision⟩ := waiting
    rcases p with ⟨candidate, _, _, run, _⟩
    cases run
    dsimp only [previousRevisionId] at *
    subst profile account provider realm adapter context dependency waits revision
    rfl

end RebindPlan

section
variable {s : RebindStore} {p : RebindPlan} {runId : ObjectId} {clones : List RebindSnapshot}
  {ids : List ObjectId} {pairs : List Remap}

theorem RebindStore.mem_checkpointsOf {s : RebindStore} {runId : ObjectId} {c : RebindCheckpoint} :
    c ∈ s.checkpointsOf runId ↔ c ∈ s.checkpoints ∧ c.runId = runId := by
  simp [checkpointsOf]

/-- A checkpoint of the run is of one of its snapshots. -/
theorem Checked.snapshot_of (checked : Checked s runId p) {c : RebindCheckpoint} (mem : c ∈ s.checkpoints)
    (own : c.runId = p.run.id) : ∃ x ∈ p.snapshots, x.id = c.snapshotId := by
  have listed : c.snapshotId ∈ (s.checkpointsOf p.run.id).map (·.snapshotId) :=
    List.mem_map_of_mem (RebindStore.mem_checkpointsOf.mpr ⟨mem, own⟩)
  rw [checked.checkpoints, ← checked.snapshotIds] at listed
  exact List.mem_map.mp listed

theorem Checked.onePerSnapshot (checked : Checked s runId p) : OnePerSnapshot p.run.id s.checkpoints := by
  have nodup : ((s.checkpointsOf p.run.id).map (·.snapshotId)).Nodup := by
    rw [checked.checkpoints]
    exact checked.distinct
  have sorted := List.perm_insertionSort (fun a b : RebindCheckpoint => a.ordinal ≤ b.ordinal)
    (s.checkpoints.filter (·.runId == p.run.id))
  have own := List.pairwise_filter.mp (List.pairwise_map.mp ((sorted.map (·.snapshotId)).nodup_iff.mp nodup))
  refine own.imp fun {a b} apart both => ?_
  exact apart (beq_iff_eq.mpr both.1) (beq_iff_eq.mpr both.2.1) both.2.2

theorem Checked.separate (checked : Checked s runId p) (found : Cloned p 0 p.snapshots clones ids pairs)
    (new : NewIds s.snapshots clones) : Separate p.run.id pairs s.checkpoints := by
  have distinct : (p.snapshots.map (·.id)).Nodup := by
    rw [checked.snapshotIds]
    exact checked.distinct
  have above : ∀ r ∈ pairs, ∀ x ∈ s.snapshots, x.id < r.newId := by
    intro r mem x stored
    have listed : r.newId ∈ clones.map (·.id) := found.newIds ▸ List.mem_map_of_mem mem
    obtain ⟨c, made, is⟩ := List.mem_map.mp listed
    rw [← is]
    exact new.above c made x stored
  refine ⟨?_, ?_, fun r mem r' mem' => ?_, fun c mem own r mem' => ?_⟩
  · have olds : pairs.map (·.oldId) = (touchedAt p 0 p.snapshots).map (·.1) := by
      rw [← found.touched, List.map_map]
      rfl
    have inOrder : ((touchedAt p 0 p.snapshots).map (·.1)).Sublist (p.snapshots.map (·.id)) := by
      have all : p.snapshots.map (·.id) = (p.snapshots.zipIdx 0).map fun e => e.1.id := by
        conv_lhs => rw [← List.zipIdx_map_fst 0 p.snapshots, List.map_map]
        rfl
      rw [all, touchedAt, List.map_map]
      exact List.filter_sublist.map _
    rw [olds]
    exact distinct.sublist inOrder
  · rw [found.newIds]
    exact new.nodup
  · have listed : (r'.oldId, r'.ordinal) ∈ touchedAt p 0 p.snapshots := found.touched ▸ List.mem_map_of_mem mem'
    obtain ⟨x, here, _, is⟩ := touchedAt_mem listed
    exact (is ▸ above r mem x (checked.stored x here)).ne'
  · obtain ⟨x, here, is⟩ := checked.snapshot_of mem own
    exact (is ▸ above r mem' x (checked.stored x here)).ne

/-- The checkpoints after a loop that succeeds follow the renamed ids. -/
theorem Checked.remapped (checked : Checked s runId p) {s' : RebindStore}
    (mapped : s'.checkpoints = s.checkpoints.map fun c =>
      if c.runId = p.run.id then { c with snapshotId := renamed pairs c.snapshotId } else c) :
    (s'.checkpointsOf p.run.id).map (·.snapshotId) = p.snapshots.map fun x => renamed pairs x.id := by
  have own : s'.checkpoints.filter (·.runId == p.run.id) =
      (s.checkpoints.filter (·.runId == p.run.id)).map fun c => { c with snapshotId := renamed pairs c.snapshotId } := by
    rw [mapped, List.filter_map]
    have same : s.checkpoints.filter ((fun c => c.runId == p.run.id) ∘ fun c =>
        if c.runId = p.run.id then { c with snapshotId := renamed pairs c.snapshotId } else c) =
        s.checkpoints.filter (·.runId == p.run.id) := by
      refine List.filter_congr fun c _ => ?_
      simp only [Function.comp_apply]
      split <;> rfl
    rw [same]
    refine List.map_congr_left fun c mem => ?_
    rw [if_pos (beq_iff_eq.mp (List.mem_filter.mp mem).2)]
  have sorted : s'.checkpointsOf p.run.id =
      (s.checkpointsOf p.run.id).map fun c => { c with snapshotId := renamed pairs c.snapshotId } := by
    unfold RebindStore.checkpointsOf
    rw [own]
    exact (List.map_insertionSort (fun a b : RebindCheckpoint => a.ordinal ≤ b.ordinal)
      (fun a b : RebindCheckpoint => a.ordinal ≤ b.ordinal)
      (fun c => { c with snapshotId := renamed pairs c.snapshotId }) _ fun _ _ _ _ => Iff.rfl).symm
  rw [sorted, List.map_map]
  have ids : (s.checkpointsOf p.run.id).map ((·.snapshotId) ∘ fun c =>
      { c with snapshotId := renamed pairs c.snapshotId }) =
      ((s.checkpointsOf p.run.id).map (·.snapshotId)).map (renamed pairs) := by
    rw [List.map_map]
    rfl
  rw [ids, checked.checkpoints, ← checked.snapshotIds, List.map_map]
  rfl

/-- **What a loop that succeeds leaves** is a bound run. -/
theorem Checked.bound (checked : Checked s runId p) (found : Cloned p 0 p.snapshots clones ids pairs)
    (order : ids = p.snapshots.map fun x => renamed pairs x.id) {s' : RebindStore} {cps : List RebindCheckpoint}
    (mapped : cps = s.checkpoints.map fun c =>
      if c.runId = p.run.id then { c with snapshotId := renamed pairs c.snapshotId } else c)
    (checkpoints : s'.checkpoints = cps) (snapshots : s'.snapshots = s.snapshots ++ clones) :
    Bound s s' p.run (p.switchRun ids p.run) := by
  refine ⟨?_, ?_, fun x mem => ?_⟩
  · have followed := checked.remapped (checkpoints.trans mapped)
    rw [← order] at followed
    exact followed
  · have same : List.Forall₂ (fun id id' => id' = id ∨ ∃ a ∈ s.snapshots, ∃ b ∈ s'.snapshots,
        a.id = id ∧ b.id = id' ∧ SameButAuth a b) (p.snapshots.map (·.id)) ids := by
      rw [List.forall₂_map_left_iff]
      have listed : ∀ x ∈ p.snapshots, x ∈ s.snapshots := checked.stored
      refine ((List.forall₂_and_left _ _).mpr ⟨listed, found.same⟩).imp ?_
      rintro x id' ⟨stored, same | ⟨c, made, is, clone⟩⟩
      · exact .inl same
      · exact .inr ⟨x, stored, c, by simp [snapshots, made], rfl, is, clone⟩
    rw [checked.snapshotIds] at same
    exact same
  · rw [snapshots]
    exact List.mem_append_left _ mem

/-- The pairs are empty when no snapshot references the profile. -/
theorem Cloned.isEmpty (found : Cloned p 0 p.snapshots clones ids pairs) :
    pairs.isEmpty = !p.snapshots.any p.touches := by
  have listed : pairs = [] ↔ touchedAt p 0 p.snapshots = [] := by
    rw [← found.touched, List.map_eq_nil_iff]
  have all : ∀ (k : Nat) (xs : List RebindSnapshot), touchedAt p k xs = [] ↔ xs.any p.touches = false := by
    intro k xs
    induction xs generalizing k with
    | nil => simp [touchedAt]
    | cons x rest ih =>
      rw [touchedAt_cons, List.any_cons, List.append_eq_nil_iff, ih]
      cases p.touches x <;> simp
  rw [all] at listed
  cases pairs <;> cases touched : p.snapshots.any p.touches <;> simp_all

/-- Every remap of the loop matches when the condition says so. -/
theorem Cloned.remapsMatch (found : Cloned p 0 p.snapshots clones ids pairs) :
    p.remapsMatch s = true ↔ ∀ r ∈ pairs, ∃ c ∈ s.checkpoints, r.matches p.run.id c = true := by
  simp only [RebindPlan.remapsMatch, ← found.touched, List.all_eq_true, List.any_eq_true, List.forall_mem_map]
  rfl

/-- The run the update matches. -/
theorem Checked.switched (checked : Checked s runId p) (runs : Distinct (·.id) s.runs) {f : RebindRun → RebindRun}
    {updated : List RebindRun} (changed : updateOne p.runMatches f s.runs = some updated) :
    ∃ front back, s.runs = front ++ p.run :: back ∧ (∀ r ∈ front, r.id ≠ p.run.id) ∧ p.runMatches p.run = true ∧
      updated = front ++ f p.run :: back := by
  obtain ⟨front, a, back, split_, here, _, rfl⟩ := updateOne_split changed
  have id_ : a.id = p.run.id := by
    simp only [RebindPlan.runMatches, Bool.and_eq_true, beq_iff_eq] at here
    exact here.1.1.1.1.1.1.1.1.1
  have memA : a ∈ s.runs := by simp [split_]
  obtain rfl : a = p.run := runs.eq_of_key memA checked.run id_
  refine ⟨front, back, split_, fun r mem same => ?_, here, rfl⟩
  unfold Distinct at runs
  rw [split_, List.map_append, List.map_cons] at runs
  have apart := (List.nodup_append.mp runs).2.2 r.id (List.mem_map_of_mem mem) p.run.id (List.mem_cons_self ..)
  exact apart same

theorem Checked.unmatched (checked : Checked s runId p) {f : RebindRun → RebindRun}
    (none_ : updateOne p.runMatches f s.runs = none) : p.runMatches p.run = false :=
  updateOne_eq_none.mp none_ p.run checked.run

end

/-- **From the first clone on**, a rebind is all or nothing when the plan can be undone. -/
theorem rebindPlanned_iff {p : RebindPlan} (now : Timestamp) (runs : Distinct (·.id) s.runs)
    (checked : Checked s p.run.id p) :
    AllOrNothing s p.run (s.rebindPlanned p now) ↔ p.restorable s = true := by
  obtain ⟨clones, store, new, found⟩ := cloneAll_spec p now 0 p.snapshots s.snapshots
  unfold RebindStore.rebindPlanned
  cases cloning : cloneAll p now 0 p.snapshots s.snapshots with
  | mk answer stored =>
  rw [cloning] at store found
  obtain rfl : stored = s.snapshots ++ clones := store
  cases answer with
  | error e =>
    -- the clones made so far stay
    have all : AllOrNothing s p.run (.error e, { s with snapshots := s.snapshots ++ clones }) ↔ clones = [] := by
      refine ⟨fun all => ?_, fun none_ => ⟨fun _ _ => ⟨rfl, rfl, by simp [none_]⟩, fun _ is => by cases is⟩⟩
      simpa using (all.raised e rfl).2.2
    rw [all, found.none_, RebindPlan.restorable, found.stopped]
    simp
  | ok made =>
    obtain ⟨ids, pairs⟩ := made
    have readable : p.snapshots.all p.readable = true := List.all_eq_true.mpr found.readable
    dsimp only
    rw [found.isEmpty]
    have deleted : deleteSnapshots (pairs.map (·.newId)) (s.snapshots ++ clones) = s.snapshots := by
      rw [found.newIds]
      exact new.delete
    cases touched : p.snapshots.any p.touches with
    | false =>
      have none_ : clones = [] := by
        have empty := found.isEmpty
        rw [touched, Bool.not_false, List.isEmpty_iff] at empty
        have mapped := found.newIds
        rw [empty] at mapped
        exact List.map_eq_nil_iff.mp mapped.symm
      refine iff_of_true ⟨fun _ _ => ⟨rfl, rfl, by simp [none_]⟩, fun _ is => by simp at is⟩ ?_
      simp [RebindPlan.restorable, readable, touched]
    | true =>
    simp only [Bool.not_true, Bool.false_eq_true, if_false]
    cases changed : updateOne p.runMatches (p.switchRun ids) s.runs with
    | none =>
      have unmatched := checked.unmatched changed
      refine iff_of_true ⟨fun _ _ => ⟨rfl, rfl, deleted⟩, fun _ is => by simp at is⟩ ?_
      simp [RebindPlan.restorable, readable, unmatched]
    | some updated =>
    obtain ⟨front, back, runs_, before, matched, rfl⟩ := checked.switched runs changed
    have separate := checked.separate found new
    dsimp only
    cases looped : remapAll p.run.id pairs [] s.checkpoints with
    | mk answer cps =>
    cases answer with
    | error remapped =>
      have failed : p.remapsMatch s = false := by
        rw [Bool.eq_false_iff]
        intro all
        have succeeds : (remapAll p.run.id pairs [] s.checkpoints).1 = .ok () :=
          (remapAll_ok_iff separate).mpr (found.remapsMatch.mp all)
        rw [looped] at succeeds
        cases succeeds
      have backed := unmapAll_remapAll separate looped
      rw [unmapAll] at backed
      have undone : updateIfAny p.switchedMatches p.switchBack (front ++ p.switchRun ids p.run :: back) =
          front ++ p.switchBack (p.switchRun ids p.run) :: back := by
        have skipped : ∀ r ∈ front, p.switchedMatches r = false := fun r mem => by
          simp [RebindPlan.switchedMatches, before r mem]
        have is : p.switchedMatches (p.switchRun ids p.run) = true := by
          simp [RebindPlan.switchedMatches, RebindPlan.switchRun, checked.paused]
        rw [updateIfAny, updateOne_front skipped is, Option.getD_some]
      have kept : p.restorable s = p.sameIdentity := by
        simp [RebindPlan.restorable, readable, touched, matched, failed]
      rw [kept, ← RebindPlan.switchBack_eq ids checked.waiting]
      refine ⟨fun all => ?_, fun same => ⟨fun _ _ => ⟨?_, backed, deleted⟩, fun _ is => by simp at is⟩⟩
      · have same := (all.raised _ rfl).1
        dsimp only at same
        rw [undone, runs_] at same
        exact (List.cons.inj (List.append_cancel_left same)).1
      · dsimp only
        rw [undone, same, runs_]
    | ok =>
      have matches_ : p.remapsMatch s = true := by
        have all := (remapAll_ok_iff separate).mp (show (remapAll p.run.id pairs [] s.checkpoints).1 = .ok () by
          rw [looped])
        exact found.remapsMatch.mpr all
      have bound : (front ++ p.switchRun ids p.run :: back).find? (·.id == p.run.id) = some (p.switchRun ids p.run) := by
        have skipped : front.find? (·.id == p.run.id) = none :=
          List.find?_eq_none.mpr fun r mem => by simp [before r mem]
        rw [List.find?_append, skipped, Option.none_or, List.find?_cons_of_pos]
        simp [RebindPlan.switchRun]
      refine iff_of_true ⟨fun _ is => by simp at is, fun run' is => ⟨p.switchRun ids p.run, ?_, ?_⟩⟩ ?_
      · rw [← Except.ok.inj is, bound]
      · have order := cloneAll_ids (by rw [checked.snapshotIds]; exact checked.distinct)
          (show (cloneAll p now 0 p.snapshots s.snapshots).1 = .ok (ids, pairs) by rw [cloning])
        have mapped := remapAll_map separate checked.onePerSnapshot looped
        exact checked.bound found order mapped rfl rfl
      · simp [RebindPlan.restorable, readable, matches_]

/-- A call that passes its checks has a plan that can be undone. -/
def RebindStore.canUndo (s : RebindStore) (runId : ObjectId) (candidateId : String) : Bool :=
  match s.checkRebind (some runId) candidateId with
  | .ok (.inl p) => p.restorable s
  | .ok (.inr _) | .error _ => true

/-- **A rebind is all or nothing** if and only if its plan can be undone. -/
theorem rebind_all_or_nothing_iff (s : RebindStore) (runs : Distinct (·.id) s.runs) (run : RebindRun)
    (mem : run ∈ s.runs) (managed : run.schedulerManaged = true) (paused : run.status = .paused)
    (candidateId : String) (now : Timestamp) :
    AllOrNothing s run (s.rebindZeroProgressAuthRun (some run.id) candidateId now) ↔
      s.canUndo run.id candidateId = true := by
  unfold RebindStore.rebindZeroProgressAuthRun RebindStore.canUndo
  cases passed : s.checkRebind (some run.id) candidateId with
  | error e =>
    refine iff_of_true ⟨fun _ _ => ⟨rfl, rfl, rfl⟩, fun _ is => ?_⟩ rfl
    cases is
  | ok found =>
    obtain ⟨p, rfl, rfl, checked⟩ := RebindStore.checkRebind_spec runs mem managed paused passed
    exact rebindPlanned_iff now runs checked

/-! ## A run whose checkpoints share an ordinal -/

/-- A paused run of two snapshots that waits for the repair of `rev1`. -/
def pausedRun : RebindRun where
  id := 7
  projectId := "p"
  envId := "e"
  dependencyType := "auth_profile"
  dependencyId := "rev1"
  dependencyRevisionId := "rev1"
  profileId := "f"
  accountId := "acc"
  authProviderId := "auth_recipe"
  authContextRef := "rev1"
  authProfileRevisionId := "rev1"
  authRealmRevisionId := "realm1"
  authAdapterVersionId := "adapter1"
  snapshotIds := [1, 2]

/-- Its store once the repair is active, with the given ordinals. -/
def pausedStore (first second : Nat) : RebindStore where
  candidates := [{ candidateId := "c", profileId := "f", previousProfileRevisionId := "rev1"
                   candidateProfileRevisionId := "rev2", status := .activated }]
  profiles := [{ profileId := "f", projectId := "p", envId := "e", currentRevisionId := "rev2" }]
  chains := { revisions := [{ profileRevisionId := "rev2", profileId := "f", realmRevisionId := "realm2"
                              projectAccountKey := "acc" }]
              realms := [{ realmRevisionId := "realm2", adapterVersionId := "adapter2", lifecycle := .active }]
              adapters := [{ adapterVersionId := "adapter2", lifecycle := .active }] }
  runs := [pausedRun]
  snapshots := [{ id := 1, authProfileRevisionId := "rev1" }, { id := 2, authProfileRevisionId := "rev1" }]
  checkpoints := [{ runId := 7, snapshotId := 1, ordinal := first }, { runId := 7, snapshotId := 2, ordinal := second }]

theorem rebind_not_all_or_nothing : ¬ ∀ (s : RebindStore), Distinct (·.id) s.runs → ∀ run ∈ s.runs,
    run.schedulerManaged = true → run.status = .paused → ∀ (candidateId : String) (now : Timestamp),
    AllOrNothing s run (s.rebindZeroProgressAuthRun (some run.id) candidateId now) := by
  intro all
  have owed := all (pausedStore 0 0) (by decide) pausedRun (by decide) rfl rfl "c" 5
  have raised : ((pausedStore 0 0).rebindZeroProgressAuthRun (some 7) "c" 5).1 =
      .error (.valueError "paused run checkpoint changed during authentication repair") := by decide +kernel
  have moved : ((pausedStore 0 0).rebindZeroProgressAuthRun (some 7) "c" 5).2.runs ≠ (pausedStore 0 0).runs := by
    decide +kernel
  exact moved (owed.raised _ raised).1

theorem rebind_all_or_nothing_in_order : (pausedStore 0 1).canUndo 7 "c" = true ∧
    AllOrNothing (pausedStore 0 1) pausedRun ((pausedStore 0 1).rebindZeroProgressAuthRun (some 7) "c" 5) := by
  have undone : (pausedStore 0 1).canUndo 7 "c" = true := by decide +kernel
  exact ⟨undone, (rebind_all_or_nothing_iff (pausedStore 0 1) (by decide) pausedRun (by decide) rfl rfl "c" 5).mpr undone⟩

end ApiManger.Repair
