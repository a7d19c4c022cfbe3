import ApiManger.Experiments.Plan

/-!
# Enqueued experiments

Enqueueing a plan finds or inserts one snapshot for the path id of every candidate, under a key of
the plan's digest. Where two candidates have one path id, the snapshot is the first one's.
-/

namespace ApiManger.Experiments
open Python

/-- A stored snapshot. Its `template_key` is the digest of its plan and a path id. -/
structure Snapshot where
  planKey : Json
  pathidKey : Int
  data : SnapshotData

def snapshotOf (plan : Plan) (c : Candidate) : Snapshot :=
  let data := payloadToSnapshotData c.payload
  { planKey := plan.planSha256
    pathidKey := c.pathid
    data := { data with
      rawData := some c.assetId
      source := "apifox_test_experiment"
      projectId := plan.projectId
      importRunId := plan.importRunId
      envId := plan.envId
      accountId := plan.context.accountId
      authMode := "account"
      authProviderId := .str plan.context.authProviderId
      authContextRef := .str plan.context.authContextRef
      authProfileRevisionId := .str plan.profileRevisionId
      authRealmRevisionId := .str plan.context.authRealmRevisionId
      authAdapterVersionId := .str plan.context.authAdapterVersionId
      adapterId := .str "apifox_test_experiment"
      adapterVersion := .str "1"
      planVersion := .str schemaVersion
      planSha256 := plan.planSha256
      metadata := Dict.set data.metadata "apifox_experiment" (.obj [("schema_version", .str schemaVersion),
        ("payload_sha256", c.payloadSha256), ("mutation", .bool c.mutation),
        ("lifecycle_readback_available", .bool false), ("cleanup_available", .bool false)]) } }

/-- `request_snapshot.objects(template_key=…).first()` -/
def findSnapshot (store : List Snapshot) (planKey : Json) (pathid : Int) : Option Snapshot :=
  store.find? fun snapshot => snapshot.planKey = planKey && snapshot.pathidKey = pathid

/-- One round of the loop over the candidates. -/
def ensureSnapshot (plan : Plan) (store : List Snapshot) (c : Candidate) : List Snapshot × Snapshot :=
  match findSnapshot store plan.planSha256 c.pathid with
  | some snapshot => (store, snapshot)
  | none => (store ++ [snapshotOf plan c], snapshotOf plan c)

/-- The loop over the candidates. -/
def ensureSnapshots (plan : Plan) (store : List Snapshot) : List Candidate → List Snapshot × List Snapshot
  | [] => (store, [])
  | c :: rest =>
    let (store, snapshot) := ensureSnapshot plan store c
    let (store, snapshots) := ensureSnapshots plan store rest
    (store, snapshot :: snapshots)

/-- `enqueue_apifox_experiment`, up to the batch of the snapshots. -/
def enqueueApifoxExperiment (plan : Plan) (expectedPlanSha256 : Json) (store : List Snapshot) :
    Except String (List Snapshot × List Snapshot) :=
  if expectedPlanSha256 ≠ plan.planSha256 then .error "expected plan hash does not match the current plan"
  else .ok (ensureSnapshots plan store plan.candidates)

/-- The stores two plans leave behind when they are enqueued any number of times, in any order; an
enqueue may stop after some of its candidates. -/
inductive Reached (p q : Plan) (start : List Snapshot) : List Snapshot → Prop
  | start : Reached p q start start
  | enqueue {store : List Snapshot} {r : Plan} {done : List Candidate} (reached : Reached p q start store)
      (either : r = p ∨ r = q) (part : done <+: r.candidates) :
      Reached p q start (ensureSnapshots r store done).1

/-! ## Whose snapshots are held -/

/-- The candidate whose snapshot a path id has. -/
def Plan.first (plan : Plan) (pathid : Int) : Option Candidate := plan.candidates.find? (·.pathid == pathid)

/-- The snapshot is that of a first candidate of one of the plans. -/
def OfFirst (p q : Plan) (pathid : Int) (snapshot : Snapshot) : Prop :=
  ∃ r, (r = p ∨ r = q) ∧ ∃ c, r.first pathid = some c ∧ snapshot = snapshotOf r c

/-- All snapshots of the plans are those of first candidates. -/
def Held (p q : Plan) (store : List Snapshot) : Prop :=
  ∀ snapshot ∈ store, snapshot.planKey = p.planSha256 → OfFirst p q snapshot.pathidKey snapshot

section
variable {p q r : Plan} {store : List Snapshot} {c : Candidate}

theorem findSnapshot_some {planKey : Json} {pathid : Int} {snapshot : Snapshot}
    (found : findSnapshot store planKey pathid = some snapshot) :
    snapshot ∈ store ∧ snapshot.planKey = planKey ∧ snapshot.pathidKey = pathid := by
  have key := List.find?_some found
  rw [Bool.and_eq_true, decide_eq_true_iff, decide_eq_true_iff] at key
  exact ⟨List.mem_of_find?_eq_some found, key.1, key.2⟩

/-- The candidates before this one have their snapshots. -/
def Ensured (plan : Plan) (store : List Snapshot) (candidates : List Candidate) : Prop :=
  ∀ c ∈ candidates, ∃ snapshot ∈ store, snapshot.planKey = plan.planSha256 ∧ snapshot.pathidKey = c.pathid

/-- A round holds and returns the snapshot of a first candidate. -/
theorem ensureSnapshot_held {before rest : List Candidate} (either : r = p ∨ r = q)
    (equal : q.planSha256 = p.planSha256) (held : Held p q store) (split : r.candidates = before ++ c :: rest)
    (ensured : Ensured r store before) :
    Held p q (ensureSnapshot r store c).1 ∧ OfFirst p q c.pathid (ensureSnapshot r store c).2 ∧
      Ensured r (ensureSnapshot r store c).1 (before ++ [c]) := by
  have digest : r.planSha256 = p.planSha256 := by
    rcases either with rfl | rfl
    · rfl
    · exact equal
  unfold ensureSnapshot
  split
  · next snapshot found =>
    obtain ⟨mem, plan, pathid⟩ := findSnapshot_some found
    have first := held snapshot mem (plan.trans digest)
    rw [pathid] at first
    refine ⟨held, first, ?_⟩
    intro b among
    rcases List.mem_append.mp among with earlier | here
    · exact ensured b earlier
    · rw [List.mem_singleton.mp here]
      exact ⟨snapshot, mem, plan, pathid⟩
  · next absent =>
    -- no candidate before this one has its path id, for it would have left a snapshot
    have fresh : ∀ b ∈ before, ¬(b.pathid == c.pathid) = true := by
      intro b earlier same
      obtain ⟨snapshot, mem, plan, pathid⟩ := ensured b earlier
      have missed := List.find?_eq_none.mp absent snapshot mem
      apply missed
      rw [Bool.and_eq_true, decide_eq_true_iff, decide_eq_true_iff]
      exact ⟨plan, pathid.trans (beq_iff_eq.mp same)⟩
    have first : r.first c.pathid = some c := by
      have here : (c :: rest).find? (·.pathid == c.pathid) = some c :=
        List.find?_cons_of_pos (beq_self_eq_true c.pathid)
      rw [Plan.first, split, List.find?_append, List.find?_eq_none.mpr fresh, here]
      rfl
    have ofFirst : OfFirst p q c.pathid (snapshotOf r c) := ⟨r, either, c, first, rfl⟩
    refine ⟨?_, ofFirst, ?_⟩
    · intro snapshot mem plan
      rcases List.mem_append.mp mem with old | new
      · exact held snapshot old plan
      · rw [List.mem_singleton.mp new]
        exact ofFirst
    · intro b among
      rcases List.mem_append.mp among with earlier | here
      · obtain ⟨snapshot, mem, keys⟩ := ensured b earlier
        exact ⟨snapshot, List.mem_append_left _ mem, keys⟩
      · rw [List.mem_singleton.mp here]
        exact ⟨snapshotOf r c, List.mem_append_right _ (List.mem_singleton_self _), rfl, rfl⟩

/-- The loop holds and returns the snapshots of first candidates. -/
theorem ensureSnapshots_held {before done rest : List Candidate} (either : r = p ∨ r = q)
    (equal : q.planSha256 = p.planSha256) (held : Held p q store)
    (split : r.candidates = before ++ done ++ rest) (ensured : Ensured r store before) :
    Held p q (ensureSnapshots r store done).1 ∧
      List.Forall₂ (fun c snapshot => OfFirst p q c.pathid snapshot) done (ensureSnapshots r store done).2 := by
  induction done generalizing store before with
  | nil => exact ⟨held, .nil⟩
  | cons c done ih =>
    have here : r.candidates = before ++ c :: (done ++ rest) := by
      rw [split, List.append_assoc, List.cons_append]
    obtain ⟨held', first, ensured'⟩ := ensureSnapshot_held either equal held here ensured
    have after : r.candidates = before ++ [c] ++ done ++ rest := by
      rw [here, List.append_assoc (before ++ [c]), List.append_assoc before [c], List.singleton_append]
    obtain ⟨last, snapshots⟩ := ih held' after ensured'
    exact ⟨last, .cons first snapshots⟩

/-- In every store reached the snapshots of the plans are those of first candidates. -/
theorem Reached.held {start : List Snapshot} (reached : Reached p q start store) (equal : q.planSha256 = p.planSha256)
    (free : ∀ snapshot ∈ start, snapshot.planKey ≠ p.planSha256) : Held p q store := by
  induction reached with
  | start => exact fun snapshot mem plan => absurd plan (free snapshot mem)
  | enqueue _ either part ih =>
    obtain ⟨rest, whole⟩ := part
    have split : _ = [] ++ _ ++ rest := whole.symm
    exact (ensureSnapshots_held either equal ih split (fun _ mem => nomatch mem)).1

end
end ApiManger.Experiments
