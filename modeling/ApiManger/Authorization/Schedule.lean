import ApiManger.Authorization.Activation
import ApiManger.Authorization.Matrix

/-!
# Scheduling an authorization matrix

`schedule_authorization_matrix` of `apiAnalysis/tool/authorization_matrix.py`: the
checks of the policy version, the snapshots of its cases, which are found again by
their template key, and the run, which is found again by an idempotency key over the
plan and the latest terminal run of it. Principals, relations and the rest of the
project stay as they are; the scheduler moves the runs and finishes them.
-/

namespace ApiManger.Authorization
open Python Store Execution Scheduler

/-- `ProjectAuthProfile`, as far as a matrix is scheduled with it. -/
structure MatrixProfile where
  profileId : String
  projectId : String
  envId : String
  accountKey : String
  currentRevisionId : String := ""
  active : Bool := true

/-- The snapshot of one case under its template key; `create_validation_case_snapshot` derives the
key from the case, its relations, profiles and hosts. -/
structure CaseSnapshot where
  templateKey : String
  document : RequestSnapshot

/-- What does not change while a matrix is scheduled again and again. `caseSnapshots` is what
`_load_relation_groups`, `expand_authorization_matrix` and `create_validation_case_snapshot` make of
the policy, its principals and its relations, case after case. -/
structure MatrixProject where
  policies : List AuthorizationPolicy
  environments : List (String × String)
  profiles : List MatrixProfile
  caseSnapshots : AuthorizationPolicy → List (Except PyError CaseSnapshot)

/-- What `plan_sha256` is a digest of. -/
structure MatrixPlan where
  policyVersionId : String
  snapshots : List ObjectId
  deriving DecidableEq

/-- What the idempotency key is a digest of. -/
structure MatrixIdentity where
  plan : MatrixPlan
  previousTerminalRun : Option ObjectId
  deriving DecidableEq

/-- `security_test_run`, as far as a matrix is scheduled again. -/
structure ScheduledMatrix where
  id : ObjectId
  projectId : String
  envId : String
  plan : MatrixPlan
  identity : MatrixIdentity
  snapshotIds : List ObjectId
  status : RunStatus := .queued
  finishedAt : Timestamp := 0

structure MatrixStore where
  snapshots : List CaseSnapshot := []
  runs : List ScheduledMatrix := []
  nextId : ObjectId := 0
  clock : Timestamp := 0

/-! ## The checks -/

/-- The profile of a frozen principal, which must not have moved on. -/
def checkPrincipalSnapshot (m : MatrixProject) (policy : AuthorizationPolicy) (principal : Dict) :
    Except PyError Unit :=
  let profile := m.profiles.find? fun p =>
    p.profileId == (Dict.get principal "profile_id").strOrEmpty && p.projectId == policy.projectId &&
      p.envId == policy.envId && p.active
  match profile with
  | none => .error (.valueError "authorization principal authentication profile is unavailable")
  | some profile =>
    if profile.accountKey ≠ (Dict.get principal "account_key").strOrEmpty then
      .error (.valueError "authorization principal authentication profile is unavailable")
    else if (Dict.get principal "auth_profile_revision_id").strOrEmpty ≠ profile.currentRevisionId then
      .error (.valueError ("authorization principal authentication revision changed; clone and activate " ++
        "a new policy version before execution"))
    else .ok ()

/-- The active policy version, its environment and its principals. -/
def checkPolicy (m : MatrixProject) (version : String) : Except PyError AuthorizationPolicy :=
  match m.policies.find? fun p => p.policyVersionId == version && p.lifecycle == .active with
  | none => .error (.valueError "active authorization policy version not found")
  | some policy =>
    if !m.environments.contains (policy.projectId, policy.envId) then
      .error (.valueError "authorization policy environment is unavailable")
    else if policy.principalSnapshots.isEmpty then
      .error (.valueError "authorization policy has no frozen principal snapshot")
    else do
      policy.principalSnapshots.forM (checkPrincipalSnapshot m policy)
      return policy

/-! ## Snapshots and runs -/

namespace MatrixStore

/-- The end of `create_validation_case_snapshot`: the snapshot of the template key, or a new one. -/
def ensureSnapshot (s : MatrixStore) (x : CaseSnapshot) : RequestSnapshot × MatrixStore :=
  match s.snapshots.find? (·.templateKey == x.templateKey) with
  | some found => (found.document, s)
  | none =>
    let document := { x.document with id := s.nextId }
    (document, { s with snapshots := s.snapshots ++ [{ x with document := document }], nextId := s.nextId + 1 })

/-- The snapshots of the cases, until one cannot be made. -/
def ensureSnapshots : List (Except PyError CaseSnapshot) → MatrixStore →
    Except PyError (List RequestSnapshot) × MatrixStore
  | [], s => (.ok [], s)
  | .error e :: _, s => (.error e, s)
  | .ok x :: rest, s =>
    match ensureSnapshots rest (s.ensureSnapshot x).2 with
    | (.ok found, s') => (.ok ((s.ensureSnapshot x).1 :: found), s')
    | (.error e, s') => (.error e, s')

/-- The statuses of the latest terminal run, as `schedule_authorization_matrix` looks for it. -/
def terminalStatuses : List RunStatus := [.done, .failed]

def latestTerminal (s : MatrixStore) (policy : AuthorizationPolicy) (plan : MatrixPlan) : Option ObjectId :=
  ((s.runs.filter fun r => r.projectId == policy.projectId && r.envId == policy.envId && r.plan == plan &&
    terminalStatuses.contains r.status).insertionSort fun a b => b.finishedAt ≤ a.finishedAt).head?.map (·.id)

/-- The checks of `enqueue_snapshot_batch`, and its snapshot ids, each once. `plan_sha256` takes no
part in them. -/
def checkBatch (policy : AuthorizationPolicy) (found : List RequestSnapshot) : Except PyError (List ObjectId) := do
  let request := matrixRequest policy.projectId policy.envId "" "" (.explicit "") (found.map (·.id))
  request.context.validate
  validatePolicy request.policy
  let ids ← normalizeSnapshotIds request.snapshotIds
  let _ ← validateSnapshots ids request.context request.policy found
  return ids

/-- `enqueue_snapshot_batch`: the run of the key, or a new one. A preparing run is queued. -/
def enqueue (s : MatrixStore) (policy : AuthorizationPolicy) (identity : MatrixIdentity) (ids : List ObjectId) :
    Except PyError (ObjectId × Bool) × MatrixStore :=
  match s.runs.find? (·.identity == identity) with
  | some run =>
    if !sameSnapshots run.snapshotIds ids then
      (.error (.valueError "idempotency_key already used with different snapshot_ids"), s)
    else if run.status ≠ .preparing then (.ok (run.id, false), s)
    else (.ok (run.id, false), { s with
      runs := s.runs.map fun r => if r.id == run.id then { r with status := .queued } else r })
  | none => (.ok (s.nextId, true), { s with
      runs := s.runs ++ [{ id := s.nextId, projectId := policy.projectId, envId := policy.envId
                           plan := identity.plan, identity := identity, snapshotIds := ids }]
      nextId := s.nextId + 1 })

end MatrixStore

/-- The plan over the snapshots of the cases. -/
def matrixPlan (policy : AuthorizationPolicy) (found : List RequestSnapshot) : MatrixPlan :=
  ⟨policy.policyVersionId, (found.map (·.id)).insertionSort (· ≤ ·)⟩

/-- `schedule_authorization_matrix`: the run and whether it was created. -/
def scheduleAuthorizationMatrix (m : MatrixProject) (version : String) (s : MatrixStore) :
    Except PyError (ObjectId × Bool) × MatrixStore :=
  match checkPolicy m version with
  | .error e => (.error e, s)
  | .ok policy =>
    match s.ensureSnapshots (m.caseSnapshots policy) with
    | (.error e, s) => (.error e, s)
    | (.ok found, s) =>
      let plan := matrixPlan policy found
      let identity : MatrixIdentity := ⟨plan, s.latestTerminal policy plan⟩
      match MatrixStore.checkBatch policy found with
      | .error e => (.error e, s)
      | .ok ids => s.enqueue policy identity ids

/-! ## Histories -/

namespace MatrixStore

/-- The scheduler moves a run that is not final. -/
def move (s : MatrixStore) (run : ObjectId) (status : RunStatus) : MatrixStore :=
  { s with runs := s.runs.map fun r => if r.id == run && !r.status.isFinal then { r with status := status } else r }

/-- The scheduler finishes a run that is not final, later than any before it. -/
def finish (s : MatrixStore) (run : ObjectId) (status : RunStatus) (elapsed : Nat) : MatrixStore :=
  let now := s.clock + elapsed + 1
  { s with
    clock := now
    runs := s.runs.map fun r =>
      if r.id == run && !r.status.isFinal then { r with status := status, finishedAt := now } else r }

end MatrixStore

/-- Calls for one policy version, and the scheduler driving their runs. -/
inductive MatrixHistory (m : MatrixProject) (version : String) : MatrixStore → Prop
  | start (snapshots : List CaseSnapshot) (nextId : ObjectId) :
      MatrixHistory m version { snapshots := snapshots, nextId := nextId }
  | schedule {s : MatrixStore} (before : MatrixHistory m version s) :
      MatrixHistory m version (scheduleAuthorizationMatrix m version s).2
  | move {s : MatrixStore} (before : MatrixHistory m version s) (run : ObjectId) {status : RunStatus}
      (active : status.isFinal = false) : MatrixHistory m version (s.move run status)
  | finish {s : MatrixStore} (before : MatrixHistory m version s) (run : ObjectId) {status : RunStatus}
      (final : status.isFinal = true) (elapsed : Nat) : MatrixHistory m version (s.finish run status elapsed)

end ApiManger.Authorization
