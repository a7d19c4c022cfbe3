import ApiManger.Repair.Records
import ApiManger.Collection.UpdateOne
import Mathlib.Data.List.Sort

/-!
# Binding a paused run to a repaired revision

`rebind_zero_progress_auth_run` of `apiAnalysis/tool/project_auth.py`: its checks, the
clones of the snapshots that reference the repaired profile, the guarded update of the
run, the remap of the checkpoints one by one and the compensation when one fails. A
number is optional where the code takes a missing one for zero but its filters do not;
update timestamps are left out.
-/

namespace ApiManger.Repair
open Python Store Collection

/-- `security_test_run`: the fields the rebind reads or writes, and the others. -/
structure RebindRun where
  id : ObjectId
  schedulerManaged : Bool := true
  status : RunStatus := .paused
  projectId : String := ""
  envId : String := ""
  dependencyType : String := ""
  dependencyId : String := ""
  dependencyRevisionId : String := ""
  profileId : String := ""
  accountId : String := ""
  authProviderId : String := ""
  authContextRef : String := ""
  authProfileRevisionId : String := ""
  authRealmRevisionId : String := ""
  authAdapterVersionId : String := ""
  runningCases : Option Int := some 0
  completedCases : Option Int := some 0
  failedCases : Option Int := some 0
  skippedCases : Option Int := some 0
  cancelledCases : Option Int := some 0
  snapshotIds : List ObjectId := []
  scope : Dict := []
  others : Dict := []
  deriving DecidableEq

/-- `request_snapshot`: the fields a clone gets anew, and the others, which it copies. -/
structure RebindSnapshot where
  id : ObjectId
  accountId : String := ""
  authMode : String := "inherit"
  authProviderId : String := ""
  authContextRef : String := ""
  authProfileRevisionId : String := ""
  authRealmRevisionId : String := ""
  authAdapterVersionId : String := ""
  metadata : Dict := []
  templateKey : Option String := none
  ctime : Timestamp := 0
  others : Dict := []

/-- `security_execution_checkpoint`: the fields the rebind reads or writes, and the others. -/
structure RebindCheckpoint where
  runId : ObjectId
  snapshotId : ObjectId
  ordinal : Nat
  status : CheckpointStatus := .pending
  attemptCount : Option Int := some 0
  resultId : Option ObjectId := none
  others : Dict := []

/-- The collections of a rebind; of the results only their runs. -/
structure RebindStore where
  candidates : List RepairCandidate := []
  profiles : List AuthProfile := []
  chains : Chains := {}
  runs : List RebindRun := []
  snapshots : List RebindSnapshot := []
  checkpoints : List RebindCheckpoint := []
  resultRuns : List ObjectId := []

/-! ## The references of one snapshot -/

/-- The items of `iter(value)`. -/
def iterate : Json → Option (List Json)
  | .arr items => some items
  | .str s => some (s.toList.map fun c => .str c.toString)
  | .obj fields => some (fields.map fun f => .str f.1)
  | _ => none

/-- One item of the sequence that `dict` is called with. A key that is not a text is never read. -/
def dictItem (d : Dict) (item : Json) : Except PyError Dict :=
  match iterate item with
  | none => .error (.typeError "cannot convert dictionary update sequence element to a sequence")
  | some [.str key, value] => .ok (Dict.set d key value)
  | some [.arr _, _] | some [.obj _, _] => .error (.typeError "unhashable type")
  | some [_, _] => .ok d
  | some _ => .error (.valueError "dictionary update sequence element has the wrong length; 2 is required")

/-- `dict(value or {})` of any value. -/
def dictOf : Json → Except PyError Dict
  | .obj fields => .ok fields
  | x => if !x.truthy then .ok [] else
    match iterate x with
    | none => .error (.typeError "object is not iterable")
    | some items => items.foldlM dictItem []

/-- What a rebind works with once its checks have passed. -/
structure RebindPlan where
  candidate : RepairCandidate
  profile : AuthProfile
  chain : RevisionChain
  run : RebindRun
  /-- The snapshots of the run, in its order. -/
  snapshots : List RebindSnapshot

namespace RebindPlan

variable (p : RebindPlan)

def previousRevisionId : String := p.candidate.previousProfileRevisionId

/-- `_auth_revision_context`. -/
def newContext : Dict :=
  [("project_id", .str p.profile.projectId), ("env_id", .str p.profile.envId),
   ("profile_id", .str p.profile.profileId), ("account_id", .str p.chain.revision.projectAccountKey),
   ("auth_mode", .str "account"), ("auth_provider_id", .str authRecipeProviderId),
   ("auth_context_ref", .str p.chain.revision.profileRevisionId),
   ("auth_profile_revision_id", .str p.chain.revision.profileRevisionId),
   ("auth_realm_revision_id", .str p.chain.realm.realmRevisionId),
   ("auth_adapter_version_id", .str p.chain.realm.adapterVersionId)]

/-- Whether the role of a validation plan uses the repaired profile. -/
def usedByRole (plan : Dict) (role : String) : Except PyError Bool := do
  let roleAuth ← dictOf (Dict.get plan (role ++ "_auth"))
  return (Dict.get plan (role ++ "_profile_id")).strOrEmpty == p.profile.profileId ||
    (Dict.get roleAuth "auth_profile_revision_id").strOrEmpty == p.previousRevisionId ||
    (Dict.get roleAuth "auth_context_ref").strOrEmpty == p.previousRevisionId

/-- The plan with the new context for a role that uses the repaired profile, and whether it does. -/
def rebindRole (plan : Dict) (role : String) : Except PyError (Dict × Bool) := do
  if ← p.usedByRole plan role then return (Dict.set plan (role ++ "_auth") (.obj p.newContext), true)
  return (plan, false)

/-- The metadata of the clone, and whether the snapshot has to be cloned. -/
def rebindMetadata (x : RebindSnapshot) : Except PyError (Dict × Bool) := do
  let changed := x.authProfileRevisionId == p.previousRevisionId
  match Dict.get x.metadata "validation_plan" with
  | .obj plan =>
    let (plan, source) ← p.rebindRole plan "source"
    let (plan, consumer) ← p.rebindRole plan "consumer"
    return (Dict.set x.metadata "validation_plan" (.obj plan), changed || source || consumer)
  | _ => return (x.metadata, changed)

/-- Whether the snapshot references the repaired profile; it raises where a role's authentication is
no dictionary. -/
def references (x : RebindSnapshot) : Except PyError Bool := (p.rebindMetadata x).map (·.2)

/-- The note `auth_repair_rebind` of a clone, and `auth_repair` of the run's scope. -/
def note : Json :=
  .obj [("candidate_id", .str p.candidate.candidateId),
    ("previous_profile_revision_id", .str p.previousRevisionId),
    ("profile_revision_id", .str p.chain.revision.profileRevisionId)]

/-- The values of a clone. -/
def cloneOf (now : Timestamp) (x : RebindSnapshot) (metadata : Dict) (id : ObjectId) :
    RebindSnapshot :=
  { x with
    id := id
    accountId := p.chain.revision.projectAccountKey
    authMode := "account"
    authProviderId := authRecipeProviderId
    authContextRef := p.chain.revision.profileRevisionId
    authProfileRevisionId := p.chain.revision.profileRevisionId
    authRealmRevisionId := p.chain.realm.realmRevisionId
    authAdapterVersionId := p.chain.realm.adapterVersionId
    metadata := Dict.set metadata "auth_repair_rebind" p.note
    templateKey := none
    ctime := now }

end RebindPlan

def freshId (snapshots : List RebindSnapshot) : ObjectId := (snapshots.map (·.id)).foldr max 0 + 1

/-- `_clone_snapshot_for_auth_revision`: the clone that was saved, or `none` for the snapshot itself. -/
def cloneSnapshotForAuthRevision (p : RebindPlan) (now : Timestamp) (x : RebindSnapshot)
    (stored : List RebindSnapshot) : Except PyError (Option RebindSnapshot) := do
  let (metadata, changed) ← p.rebindMetadata x
  if changed then return some (p.cloneOf now x metadata (freshId stored))
  return none

/-! ## The steps of the rebind -/

/-- An entry of `changed_pairs`. -/
structure Remap where
  oldId : ObjectId
  newId : ObjectId
  ordinal : Nat

/-- The loop that clones: the new snapshot ids and the changed pairs, and the stored snapshots. -/
def cloneAll (p : RebindPlan) (now : Timestamp) : Nat → List RebindSnapshot → List RebindSnapshot →
    Except PyError (List ObjectId × List Remap) × List RebindSnapshot
  | _, [], stored => (.ok ([], []), stored)
  | k, x :: rest, stored =>
    match cloneSnapshotForAuthRevision p now x stored with
    | .error e => (.error e, stored)
    | .ok none =>
      match cloneAll p now (k + 1) rest stored with
      | (.ok (ids, pairs), stored) => (.ok (x.id :: ids, pairs), stored)
      | (.error e, stored) => (.error e, stored)
    | .ok (some clone) =>
      match cloneAll p now (k + 1) rest (stored ++ [clone]) with
      | (.ok (ids, pairs), stored) => (.ok (clone.id :: ids, ⟨x.id, clone.id, k⟩ :: pairs), stored)
      | (.error e, stored) => (.error e, stored)

/-- The filter of the guarded update of one checkpoint. -/
def Remap.matches (r : Remap) (runId : ObjectId) (c : RebindCheckpoint) : Bool :=
  c.runId == runId && c.ordinal == r.ordinal && c.status == .pending && c.attemptCount == some 0 &&
    c.snapshotId == r.oldId

/-- The filter of its compensation. -/
def Remap.wrote (r : Remap) (runId : ObjectId) (c : RebindCheckpoint) : Bool :=
  c.runId == runId && c.ordinal == r.ordinal && c.snapshotId == r.newId

/-- The loop that remaps the checkpoints: all of them, or those done so far, the last one first. -/
def remapAll (runId : ObjectId) : List Remap → List Remap → List RebindCheckpoint →
    Except (List Remap) Unit × List RebindCheckpoint
  | [], _, cps => (.ok (), cps)
  | r :: rest, remapped, cps =>
    match updateOne (r.matches runId) (fun c => { c with snapshotId := r.newId }) cps with
    | none => (.error remapped, cps)
    | some cps => remapAll runId rest (r :: remapped) cps

/-- The loop that takes the remaps back. -/
def unmapAll (runId : ObjectId) : List Remap → List RebindCheckpoint → List RebindCheckpoint
  | [], cps => cps
  | r :: rest, cps =>
    unmapAll runId rest (updateIfAny (r.wrote runId) (fun c => { c with snapshotId := r.oldId }) cps)

namespace RebindPlan

/-- The filter of the guarded update of the run. -/
def runMatches (p : RebindPlan) (r : RebindRun) : Bool :=
  r.id == p.run.id && r.status == .paused && r.dependencyType == "auth_profile" &&
    r.dependencyId == p.previousRevisionId && r.authProfileRevisionId == p.previousRevisionId &&
    r.runningCases == some 0 && r.completedCases == some 0 && r.failedCases == some 0 &&
    r.skippedCases == some 0 && r.cancelledCases == some 0

/-- The run on the new revision. -/
def switchRun (p : RebindPlan) (snapshotIds : List ObjectId) (r : RebindRun) : RebindRun :=
  { r with
    snapshotIds := snapshotIds
    profileId := p.profile.profileId
    accountId := p.chain.revision.projectAccountKey
    authProviderId := authRecipeProviderId
    authContextRef := p.chain.revision.profileRevisionId
    authProfileRevisionId := p.chain.revision.profileRevisionId
    authRealmRevisionId := p.chain.realm.realmRevisionId
    authAdapterVersionId := p.chain.realm.adapterVersionId
    dependencyId := p.chain.revision.profileRevisionId
    dependencyRevisionId := p.chain.revision.profileRevisionId
    scope := Dict.set p.run.scope "auth_repair" p.note }

/-- The filter of the compensation of the run. -/
def switchedMatches (p : RebindPlan) (r : RebindRun) : Bool :=
  r.id == p.run.id && r.status == .paused && r.authProfileRevisionId == p.chain.revision.profileRevisionId

/-- The compensation of the run. -/
def switchBack (p : RebindPlan) (r : RebindRun) : RebindRun :=
  { r with
    snapshotIds := p.run.snapshotIds
    authContextRef := p.previousRevisionId
    authProfileRevisionId := p.previousRevisionId
    dependencyId := p.previousRevisionId
    dependencyRevisionId := p.previousRevisionId
    scope := p.run.scope }

/-- The candidate once the run is bound. -/
def rebound (p : RebindPlan) (clones : Nat) (c : RepairCandidate) : RepairCandidate :=
  { c with
    resumeRunId := some p.run.id
    rebindStatus := "rebound"
    activationSummary := Dict.set (Dict.set (Dict.set p.candidate.activationSummary
      "rebound_run_id" (.str s!"{p.run.id}")) "snapshot_clone_count" (.int clones))
      "business_result_count_before_rebind" (.int 0) }

end RebindPlan

/-- `request_snapshot.objects(id__in=ids).delete()`. -/
def deleteSnapshots (ids : List ObjectId) (snapshots : List RebindSnapshot) : List RebindSnapshot :=
  snapshots.filter fun x => !ids.contains x.id

/-! ## The checks -/

namespace RebindStore

variable (s : RebindStore)

def checkpointsOf (runId : ObjectId) : List RebindCheckpoint :=
  (s.checkpoints.filter (·.runId == runId)).insertionSort fun a b => a.ordinal ≤ b.ordinal

/-- The paused run, which must be waiting for the repaired revision and have no progress. -/
def checkRun (candidate : RepairCandidate) (profile : AuthProfile) (run : RebindRun) :
    Except PyError Unit :=
  if run.projectId ≠ profile.projectId ∨ run.envId ≠ profile.envId then
    .error (.valueError "paused run belongs to another project or environment")
  else if run.dependencyType ≠ "auth_profile" ∨ run.dependencyId ≠ candidate.previousProfileRevisionId ∨
      run.authProfileRevisionId ≠ candidate.previousProfileRevisionId then
    .error (.valueError "paused run is waiting for another authentication revision")
  else if [run.runningCases, run.completedCases, run.failedCases, run.skippedCases, run.cancelledCases].any
      fun n => n.getD 0 != 0 then
    .error (.valueError "paused run already has execution progress and cannot be rebound")
  else if s.resultRuns.contains run.id then
    .error (.valueError "paused run already has results and cannot be rebound")
  else .ok ()

def snapshotsOf (run : RebindRun) : Except PyError (List RebindSnapshot) :=
  let found := s.snapshots.filter fun x => run.snapshotIds.contains x.id
  if run.snapshotIds.isEmpty ∨ ((found.map (·.id)).dedup.length ≠ run.snapshotIds.length) then
    .error (.valueError "paused run snapshots are incomplete")
  else .ok (run.snapshotIds.filterMap fun id => found.find? (·.id == id))

/-- A checkpoint that no worker has touched, of the snapshot at its place. -/
def untouched (c : RebindCheckpoint) (snapshotId : ObjectId) : Bool :=
  c.status == .pending && c.attemptCount.getD 0 == 0 && c.resultId.isNone && c.snapshotId == snapshotId

def checkCheckpoints (run : RebindRun) : Except PyError Unit :=
  let checkpoints := s.checkpointsOf run.id
  if checkpoints.length ≠ run.snapshotIds.length then
    .error (.valueError "paused run checkpoints are incomplete")
  else if !(checkpoints.zip run.snapshotIds).all fun c => untouched c.1 c.2 then
    .error (.valueError "paused run already entered business execution")
  else .ok ()

/-- The run to rebind, or the one that is bound already. -/
def pausedRun (runId : ObjectId) (revisionId : String) : Except PyError (RebindRun ⊕ RebindRun) :=
  match s.runs.find? fun r => r.id == runId && r.schedulerManaged && r.status == .paused with
  | some run => .ok (.inl run)
  | none =>
    match s.runs.find? (·.id == runId) with
    | none => .error (.valueError "paused run is unavailable")
    | some existing =>
      if existing.authProfileRevisionId = revisionId ∧ (existing.status = .paused ∨ existing.status = .queued) then
        .ok (.inr existing)
      else .error (.valueError "paused run is unavailable")

/-- Everything before the first clone: the plan, or the run that is bound already. `runId` is `none`
for a text that is no `ObjectId`. -/
def checkRebind (runId : Option ObjectId) (candidateId : String) :
    Except PyError (RebindPlan ⊕ RebindRun) := do
  match runId with
  | none => .error (.valueError "paused run id is invalid")
  | some runId =>
  match s.candidates.find? fun c => c.candidateId == candidateId && c.status == .activated with
  | none => .error (.valueError "authentication repair candidate is not activated")
  | some candidate =>
  match s.profiles.find? fun p => p.profileId == candidate.profileId &&
      p.currentRevisionId == candidate.candidateProfileRevisionId && p.active with
  | none => .error (.valueError "activated authentication profile is unavailable")
  | some profile =>
    let chain ← s.chains.loadRevisionChain profile candidate.candidateProfileRevisionId false
    match ← s.pausedRun runId chain.revision.profileRevisionId with
    | .inr existing => return .inr existing
    | .inl run =>
      s.checkRun candidate profile run
      let snapshots ← s.snapshotsOf run
      s.checkCheckpoints run
      return .inl ⟨candidate, profile, chain, run, snapshots⟩

/-! ## The call -/

/-- From the first clone on. -/
def rebindPlanned (p : RebindPlan) (now : Timestamp) : Except PyError (Option RebindRun) × RebindStore :=
  match cloneAll p now 0 p.snapshots s.snapshots with
  | (.error e, stored) => (.error e, { s with snapshots := stored })
  | (.ok (snapshotIds, pairs), stored) =>
    let clones := pairs.map (·.newId)
    if pairs.isEmpty then
      (.error (.valueError "paused run contains no references to the repaired profile"), { s with snapshots := stored })
    else
      match updateOne p.runMatches (p.switchRun snapshotIds) s.runs with
      | none => (.error (.valueError "paused run changed while authentication was being repaired"),
          { s with snapshots := deleteSnapshots clones stored })
      | some runs =>
        match remapAll p.run.id pairs [] s.checkpoints with
        | (.error remapped, checkpoints) =>
          (.error (.valueError "paused run checkpoint changed during authentication repair"),
            { s with
              runs := updateIfAny p.switchedMatches p.switchBack runs
              checkpoints := unmapAll p.run.id remapped checkpoints
              snapshots := deleteSnapshots clones stored })
        | (.ok (), checkpoints) =>
          (.ok (runs.find? (·.id == p.run.id)),
            { s with
              runs := runs
              checkpoints := checkpoints
              snapshots := stored
              candidates := updateIfAny (·.candidateId == p.candidate.candidateId) (p.rebound pairs.length) s.candidates })

def rebindZeroProgressAuthRun (runId : Option ObjectId) (candidateId : String) (now : Timestamp) :
    Except PyError (Option RebindRun) × RebindStore :=
  match s.checkRebind runId candidateId with
  | .error e => (.error e, s)
  | .ok (.inr existing) => (.ok (some existing), s)
  | .ok (.inl plan) => s.rebindPlanned plan now

end RebindStore

end ApiManger.Repair
