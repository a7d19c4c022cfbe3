import ApiManger.Findings.Lifecycle

/-!
# The machine of the calls

What one read or write of `ApiManger.Findings.Lifecycle` does to the store, with the
scheduler as the environment: it moves a retest that is not final, and finishes it
once, with results of its own snapshots.
-/

namespace ApiManger.Findings
open Python Store Interleaving

/-- What the scheduler does to a retest. -/
inductive RunProgress where
  | move (run : ObjectId) (status : RunStatus)
  | finish (run : ObjectId) (status : RunStatus) (checkpoints : List CheckpointStatus)
      (results : List RetestResult)

/-- What a step brings with it. -/
structure FindingInput where
  calls : List FindingCall := []
  /-- The error `enqueue_snapshot_batch` raises, if it does. -/
  refusal : Option PyError := none
  progress : RunProgress := .move 0 .running
  elapsed : Nat := 0

namespace FindingStore

variable (s : FindingStore)

def find? (id : ObjectId) : Option VulnerabilityFinding := if s.finding.id = id then some s.finding else none

/-- An update of the finding by id. -/
def updateFinding (id : ObjectId) (f : VulnerabilityFinding → VulnerabilityFinding) : FindingStore :=
  if s.finding.id = id then { s with finding := f s.finding } else s

def retestsOf (project : String) (finding : ObjectId) : List RetestRun :=
  s.runs.filter fun r => r.projectId == project && r.schedulerManaged && r.isRetestOf finding

def evaluationCodes : List String := [
  "finding_retest_all_cases_passed", "finding_retest_candidate_persists",
  "finding_retest_incomplete", "finding_retest_inconclusive"]

def resultsOf (run : ObjectId) : List RetestResult := s.results.filter (·.runId == run)

/-- The snapshots of the results the finding lists. -/
def listedSnapshots : List ObjectId :=
  (s.results.filter fun r => s.finding.resultIds.contains r.id).filterMap (·.snapshotId)

/-- The run `enqueue_snapshot_batch` inserts. -/
def queuedRun (identity : RetestIdentity) (project : String) (snapshots : List ObjectId) : RetestRun where
  id := s.nextId
  projectId := project
  retestOf := some identity.finding
  identity := some identity
  snapshotIds := snapshots
  totalCases := snapshots.length
  queuedAt := s.clock

/-- `enqueue_snapshot_batch`: the run of the key, or a new one. -/
def enqueue (identity : RetestIdentity) (project : String) (snapshots : List ObjectId) :
    (ObjectId × Bool) × FindingStore :=
  match s.runs.find? (·.identity == some identity) with
  | some run => ((run.id, false), s)
  | none => ((s.nextId, true), { s with
      runs := s.runs ++ [s.queuedRun identity project snapshots]
      nextId := s.nextId + 1
      history := s.history ++ [.scheduled s.nextId s.listedSnapshots] })

end FindingStore

/-- One atomic operation of caller `t`. -/
def execFinding (t : Nat) : (o : FindingOp) → FindingInput → FindingStore →
    Option (Except PyError o.Ret × FindingStore)
  | .find id, _, s => some (.ok (s.find? id), s)
  | .setStatus id validated target run, _, s => some (.ok (),
      if s.finding.id = id then { s with
        finding := { s.finding with
          status := target, closeReason := if target.isClosed then some target else s.finding.closeReason }
        history := s.history ++ [.moved (some t) (some validated) target run] }
      else s)
  | .saveEvent event, _, s => some (.ok (), { s with events := s.events ++ [event] })
  | .pushRunId id run, _, s => some (.ok (),
      s.updateFinding id fun f => { f with runIds := f.runIds ++ [run] })
  | .linkResult id result run, _, s => some (.ok (), s.updateFinding id fun f => { f with
      resultIds := if f.resultIds.contains result then f.resultIds else f.resultIds ++ [result]
      runIds := if f.runIds.contains run then f.runIds else f.runIds ++ [run] })
  | .activeRetest project finding, _, s => some (.ok
      (((s.retestsOf project finding).filter (activeRetestStatuses.contains ·.status)).insertionSort
        fun a b => b.queuedAt ≤ a.queuedAt).head?, s)
  | .baselineResults ids, _, s => some (.ok
      ((s.results.filter (ids.contains ·.id)).insertionSort fun a b => b.ctime ≤ a.ctime), s)
  | .sourceRuns ids, _, s => some (.ok
      ((s.runs.filter fun r => ids.contains r.id && r.schedulerManaged).insertionSort
        fun a b => b.startedAt ≤ a.startedAt), s)
  | .latestTerminal project finding, _, s => some (.ok
      ((((s.retestsOf project finding).filter (·.status.isFinal)).insertionSort
        fun a b => b.finishedAt ≤ a.finishedAt).head?.map (·.id)), s)
  | .enqueueSnapshotBatch identity project snapshots, i, s =>
    match i.refusal with
    | some e => some (.error e, s)
    | none => some (.ok (s.enqueue identity project snapshots).1, (s.enqueue identity project snapshots).2)
  | .retestRun run project finding, _, s =>
    some (.ok ((s.retestsOf project finding).find? (·.id == run)), s)
  | .runResults run, _, s => some (.ok (s.resultsOf run), s)
  | .verifyEvent _ run codes, _, s => some (.ok (s.events.any fun e =>
      e.eventType == .fixVerify && e.relatedRunId == some run && e.reasonCodes.any codes.contains), s)
  | .completedRetests limit, _, s => some (.ok
      (((s.runs.filter fun r => r.status == .done && r.retestOf.isSome).insertionSort
        fun a b => a.finishedAt ≤ b.finishedAt).take limit), s)
  | .pendingFinding id, _, s =>
    some (.ok ((s.find? id).filter (·.status == .fixedPendingVerify)), s)
  | .evaluationMarker _ run, _, s => some (.ok (s.events.any fun e =>
      e.relatedRunId == some run && e.reasonCodes.any FindingStore.evaluationCodes.contains), s)

/-- The results are of the run: of its snapshots, no snapshot twice, and new. -/
def resultsFit (s : FindingStore) (run : RetestRun) (results : List RetestResult) : Bool :=
  results.all (fun r => r.runId == run.id && r.snapshotId.any run.snapshotIds.contains &&
    s.results.all (·.id != r.id)) &&
  decide (results.map (·.snapshotId)).Nodup

/-- A step of the scheduler, and some time. -/
def scheduleStep (i : FindingInput) (s : FindingStore) : Option FindingStore :=
  let now := s.clock + i.elapsed
  match i.progress with
  | .move id status =>
    if status.isFinal then none
    else some { s with
      clock := now
      runs := s.runs.map fun r => if r.id == id && !r.status.isFinal then
        { r with status := status, startedAt := now } else r }
  | .finish id status checkpoints results =>
    match s.runs.find? (·.id == id) with
    | none => none
    | some run =>
      if status.isFinal && !run.status.isFinal && resultsFit s run results then some { s with
        clock := now
        results := s.results ++ results
        runs := s.runs.map fun r => if r.id == id then
          { r with status := status, finishedAt := now, checkpoints := checkpoints } else r }
      else none

/-- Any number of callers, each making its calls in order, beside the scheduler. -/
def findingDesk : Machine findingSignature where
  State := FindingStore
  Tid := Nat
  Input := FindingInput
  exec := execFinding
  start t i s := some (callerCode t i.calls, s)
  environment := scheduleStep

instance : DecidableEq findingDesk.Tid := inferInstanceAs (DecidableEq Nat)

def openDesk (s : FindingStore) : Config findingDesk := Config.initial (M := findingDesk) s

end ApiManger.Findings
