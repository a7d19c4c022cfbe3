import ApiManger.Collection.FirstMatch
import ApiManger.Interleaving.RelyGuarantee
import ApiManger.Store.Documents

/-!
# The lifecycle of a finding

`apiAnalysis/tool/vulnerability_lifecycle.py`: the transitions of one finding, its
append-only event log, and the retests that verify a fix, as programs over atomic
reads and writes. The scheduler changes the retest runs on its own. Beside the
documents the store keeps the history of what moved the finding and what was
scheduled for it.
-/

namespace ApiManger.Findings
open Python Store Interleaving

/-- `vulnerability_finding.status`. -/
inductive FindingStatus where
  | opened | fixing | fixedPendingVerify | verifiedFixed | reopened | falsePositive | acceptedRisk
  deriving DecidableEq

namespace FindingStatus

def validTransitions : FindingStatus → List FindingStatus
  | .opened => [.fixing, .falsePositive, .acceptedRisk]
  | .fixing => [.fixedPendingVerify, .acceptedRisk]
  | .fixedPendingVerify => [.verifiedFixed, .reopened]
  | .reopened => [.fixing, .acceptedRisk]
  | .verifiedFixed | .falsePositive | .acceptedRisk => []

/-- `CLOSED_REASONS`. -/
def isClosed (s : FindingStatus) : Bool := s ∈ [.verifiedFixed, .falsePositive, .acceptedRisk]

/-- A closed finding has no transition. -/
theorem validTransitions_closed {s : FindingStatus} (closed : s.isClosed = true) : s.validTransitions = [] := by
  cases s <;> first | rfl | cases closed

end FindingStatus

/-- `finding_event.event_type`, as far as it is written here. -/
inductive EventType where
  | created | statusChange | fixVerify | reopened | closed
  deriving DecidableEq

/-- `finding_event`; `caller` is who inserted it. -/
structure FindingEvent where
  caller : Option Nat
  eventType : EventType
  fromStatus : Option FindingStatus := none
  toStatus : Option FindingStatus := none
  actor : String := ""
  reason : String := ""
  reasonCodes : List String := []
  relatedRunId : Option ObjectId := none
  relatedResultIds : List ObjectId := []

/-- `vulnerability_finding`, as far as its lifecycle reads it. -/
structure VulnerabilityFinding where
  id : ObjectId
  projectId : String := ""
  status : FindingStatus := .opened
  closeReason : Option FindingStatus := none
  resultIds : List ObjectId := []
  runIds : List ObjectId := []

/-- What the idempotency key of a retest is a digest of. -/
structure RetestIdentity where
  finding : ObjectId
  sourceRun : ObjectId
  snapshots : List ObjectId
  latestTerminal : Option ObjectId
  deriving DecidableEq

/-- `security_test_run`, as far as retests read it. -/
structure RetestRun where
  id : ObjectId
  projectId : String := ""
  status : RunStatus := .queued
  schedulerManaged : Bool := true
  /-- `scope.finding_id` of a run whose `scope.purpose` is `finding_retest`. -/
  retestOf : Option ObjectId := none
  identity : Option RetestIdentity := none
  snapshotIds : List ObjectId := []
  totalCases : Nat := 0
  queuedAt : Timestamp := 0
  startedAt : Timestamp := 0
  finishedAt : Timestamp := 0
  checkpoints : List CheckpointStatus := []

/-- `security_test_result`, as far as retests read it. -/
structure RetestResult where
  id : ObjectId
  runId : ObjectId
  snapshotId : Option ObjectId := none
  verdict : String := ""
  outcomeClass : String := ""
  ctime : Timestamp := 0

/-! ## Classification -/

def retestPassVerdicts : List String :=
  ["no_vuln", "isolated_not_found", "isolated_blocked", "blocked_own_data"]

def retestCandidateVerdicts : List String := ["potential_vuln", "PARTIAL_IDOR_PARAM", "UNAUTH_EXPOSURE"]

def RetestResult.isCandidate (r : RetestResult) : Bool :=
  r.outcomeClass == "candidate" || retestCandidateVerdicts.contains r.verdict

def RetestResult.isPass (r : RetestResult) : Bool :=
  r.outcomeClass == "pass" || retestPassVerdicts.contains r.verdict

inductive RetestDecision where
  | reopened | verifiedFixed | pending

structure Evaluation where
  decision : RetestDecision
  reasonCodes : List String
  resultIds : List ObjectId

/-- Every case has a finished checkpoint and a result. -/
def retestComplete (checkpoints : List CheckpointStatus) (results : List RetestResult) (totalCases : Nat) :
    Bool :=
  decide (0 < totalCases) && checkpoints.length == totalCases && results.length == totalCases &&
    checkpoints.all (· == .done)

def classifyFindingRetest (checkpoints : List CheckpointStatus) (results : List RetestResult)
    (totalCases : Nat) : Evaluation :=
  let candidates := results.filter (·.isCandidate)
  let complete := retestComplete checkpoints results totalCases
  if candidates ≠ [] then
    ⟨.reopened, ["finding_retest_candidate_persists"], candidates.map (·.id)⟩
  else if complete && results.all (·.isPass) then
    ⟨.verifiedFixed, ["finding_retest_all_cases_passed"], results.map (·.id)⟩
  else ⟨.pending, [if complete then "finding_retest_inconclusive" else "finding_retest_incomplete"],
    results.map (·.id)⟩

/-! ## The store -/

/-- What happened to the finding: it moved, or a retest was scheduled while its results had these
snapshots. -/
inductive Happening where
  | moved (caller : Option Nat) (source : Option FindingStatus) (target : FindingStatus)
      (run : Option ObjectId)
  | scheduled (run : ObjectId) (snapshots : List ObjectId)
  deriving DecidableEq

structure FindingStore where
  finding : VulnerabilityFinding
  events : List FindingEvent
  runs : List RetestRun
  results : List RetestResult
  nextId : ObjectId
  clock : Timestamp := 0
  history : List Happening

/-- The statuses of a retest that is still under way, as `schedule_finding_retest` sees it. -/
def activeRetestStatuses : List RunStatus := [.preparing, .queued, .running, .paused]

def RetestRun.isRetestOf (r : RetestRun) (finding : ObjectId) : Bool := r.retestOf == some finding

inductive FindingOp where
  | find (id : ObjectId)
  /-- The update of a transition; `validated` is the status it was validated against. -/
  | setStatus (id : ObjectId) (validated target : FindingStatus) (run : Option ObjectId)
  | saveEvent (event : FindingEvent)
  | pushRunId (id run : ObjectId)
  | linkResult (id result run : ObjectId)
  | activeRetest (project : String) (finding : ObjectId)
  | baselineResults (ids : List ObjectId)
  | sourceRuns (ids : List ObjectId)
  | latestTerminal (project : String) (finding : ObjectId)
  /-- `enqueue_snapshot_batch`, by what it does to the retests. -/
  | enqueueSnapshotBatch (identity : RetestIdentity) (project : String) (snapshots : List ObjectId)
  | retestRun (run : ObjectId) (project : String) (finding : ObjectId)
  | runResults (run : ObjectId)
  | verifyEvent (finding run : ObjectId) (codes : List String)
  | completedRetests (limit : Nat)
  | pendingFinding (id : ObjectId)
  | evaluationMarker (finding run : ObjectId)

def FindingOp.Ret : FindingOp → Type
  | .find _ | .pendingFinding _ => Option VulnerabilityFinding
  | .setStatus .. | .saveEvent _ | .pushRunId .. | .linkResult .. => Unit
  | .activeRetest .. | .retestRun .. => Option RetestRun
  | .baselineResults _ | .runResults _ => List RetestResult
  | .sourceRuns _ | .completedRetests _ => List RetestRun
  | .latestTerminal .. => Option ObjectId
  | .enqueueSnapshotBatch .. => ObjectId × Bool
  | .verifyEvent .. | .evaluationMarker .. => Bool

def findingSignature : Signature where
  Op := FindingOp
  Ret := FindingOp.Ret
  Err := PyError

/-- One read or write. -/
def atomic (o : FindingOp) : Prog findingSignature o.Ret := Prog.perform (S := findingSignature) o

/-! ## The calls -/

def validateTransition (current target : FindingStatus) : Except PyError Unit :=
  if target ∈ current.validTransitions then .ok () else .error (.valueError "cannot transition")

/-- The arguments of `transition_finding` beside the finding and the status. -/
structure TransitionNote where
  actor : String := ""
  reason : String := ""
  reasonCodes : List String := []
  relatedRunId : Option ObjectId := none
  relatedResultIds : List ObjectId := []

def transitionEvent (caller : Nat) (source target : FindingStatus) (note : TransitionNote) : FindingEvent where
  caller := some caller
  eventType := if target.isClosed then .closed else if target = .reopened then .reopened else .statusChange
  fromStatus := some source
  toStatus := some target
  actor := note.actor
  reason := note.reason
  reasonCodes := note.reasonCodes
  relatedRunId := note.relatedRunId
  relatedResultIds := note.relatedResultIds

/-- The states only a linked replay may enter or leave. -/
def needsEvidence (source target : FindingStatus) : Bool :=
  target == .fixedPendingVerify || source == .fixedPendingVerify

section
variable (t : Nat)

def transitionFinding (id : ObjectId) (target : FindingStatus) (note : TransitionNote)
    (verificationEvidence : Bool) : Prog findingSignature Unit := do
  let found ← atomic (.find id)
  match found with
  | none => .raise (.valueError "finding not found")
  | some finding => do
    Prog.ofExcept (validateTransition finding.status target)
    if needsEvidence finding.status target && !verificationEvidence then
      .raise (.valueError "fix-verification states can only be changed by a linked replay run")
    else do
      atomic (.setStatus id finding.status target note.relatedRunId)
      atomic (.saveEvent (transitionEvent t finding.status target note))

/-- What `link_fix_verification` does with the run, by the status it read. -/
def submitVerification (finding : VulnerabilityFinding) (id : ObjectId) (actor : String) (run : ObjectId)
    (results : List ObjectId) : Prog findingSignature Unit :=
  if finding.status = .fixing then
    transitionFinding t id .fixedPendingVerify
      ⟨actor, "fix verification submitted", [], some run, results⟩ true
  else
    atomic (.saveEvent { caller := some t, eventType := .fixVerify, actor := actor,
                         relatedRunId := some run, relatedResultIds := results })

def linkFixVerification (id : ObjectId) (actor : String) (run : ObjectId) (results : List ObjectId) :
    Prog findingSignature Unit := do
  let found ← atomic (.find id)
  match found with
  | none => .raise (.valueError "finding not found")
  | some finding => do
    submitVerification t finding id actor run results
    Prog.when (!finding.runIds.contains run) (atomic (.pushRunId id run))
    let _ ← atomic (.find id)
    .ret ()

def candidateRunIds (results : List RetestResult) : List ObjectId :=
  Collection.firstOfEach id [] (results.map (·.runId))

/-- The snapshots of the results of one run, each once. -/
def selectedSnapshots (run : ObjectId) (results : List RetestResult) : List ObjectId :=
  Collection.firstOfEach id [] ((results.filter (·.runId == run)).filterMap (·.snapshotId))

def scheduleFindingRetest (id : ObjectId) (actor : String) : Prog findingSignature Unit := do
  let found ← atomic (.find id)
  match found with
  | none => .raise (.valueError "finding not found")
  | some finding =>
    if finding.status ≠ .fixing ∧ finding.status ≠ .fixedPendingVerify then
      .raise (.valueError "finding must be fixing or fixed_pending_verify before retest")
    else do
      let active ← atomic (.activeRetest finding.projectId finding.id)
      match active with
      | some _ => .ret ()
      | none => do
        let baseline : List RetestResult ← atomic (.baselineResults finding.resultIds)
        if baseline = [] then
          .raise (.valueError "finding has no immutable machine result to replay")
        else do
          let sources ← atomic (.sourceRuns (candidateRunIds baseline))
          match sources with
          | [] => .raise (.valueError "finding has no scheduler-managed baseline run")
          | source :: _ =>
            let snapshots := selectedSnapshots source.id baseline
            if snapshots = [] then
              .raise (.valueError "finding baseline results have no replayable snapshot")
            else do
              let latest ← atomic (.latestTerminal finding.projectId finding.id)
              let (run, created) ← atomic (.enqueueSnapshotBatch
                ⟨finding.id, source.id, snapshots.insertionSort (· ≤ ·), latest⟩ source.projectId snapshots)
              Prog.when created (linkFixVerification t finding.id actor run [])

/-- The link of every result of the run to the finding. -/
def linkResults (id run : ObjectId) (results : List RetestResult) : Prog findingSignature Unit :=
  Prog.forEach (fun result => atomic (.linkResult id result.id run)) results

def evaluateFindingRetest (id run : ObjectId) (actor : String) : Prog findingSignature Unit := do
  let found ← atomic (.find id)
  match found with
  | none => .raise (.valueError "finding not found")
  | some finding => do
    let retest ← atomic (.retestRun run finding.projectId finding.id)
    match retest with
    | none => .raise (.valueError "finding retest run not found")
    | some retest =>
      if retest.status ≠ .done then .raise (.valueError "finding retest run is not complete")
      else do
        let results ← atomic (.runResults retest.id)
        let evaluation := classifyFindingRetest retest.checkpoints results retest.totalCases
        linkResults finding.id retest.id results
        if finding.status = .fixedPendingVerify then
          match evaluation.decision with
          | .verifiedFixed =>
            transitionFinding t finding.id .verifiedFixed ⟨actor, "fix verification passed",
              evaluation.reasonCodes, some retest.id, evaluation.resultIds⟩ true
          | .reopened =>
            transitionFinding t finding.id .reopened ⟨actor, "fix verification reproduced the finding",
              evaluation.reasonCodes, some retest.id, evaluation.resultIds⟩ true
          | .pending => do
            let existing ← atomic (.verifyEvent finding.id retest.id evaluation.reasonCodes)
            Prog.when (!existing) (atomic (.saveEvent {
              caller := some t, eventType := .fixVerify, actor := actor
              reason := "fix verification remains inconclusive"
              reasonCodes := evaluation.reasonCodes
              relatedRunId := some retest.id, relatedResultIds := evaluation.resultIds }))
        else .ret ()

/-- One run of the loop of `evaluate_completed_finding_retests`. -/
def evaluateCompleted (actor : String) (run : RetestRun) : Prog findingSignature Unit :=
  match run.retestOf with
  | none => .ret ()
  | some id => do
    let finding ← atomic (.pendingFinding id)
    match finding with
    | none => .ret ()
    | some finding => do
      let marker ← atomic (.evaluationMarker finding.id run.id)
      Prog.when (!marker) (evaluateFindingRetest t finding.id run.id actor)

def evaluateCompletedFindingRetests (limit : Int) (actor : String) : Prog findingSignature Unit := do
  let runs ← atomic (.completedRetests (max 1 (min limit 1000)).toNat)
  Prog.forEach (evaluateCompleted t actor) runs

/-- What a caller may ask for. -/
inductive FindingCall where
  | transition (id : ObjectId) (target : FindingStatus) (note : TransitionNote) (evidence : Bool)
  | link (id : ObjectId) (actor : String) (run : ObjectId) (results : List ObjectId)
  | schedule (id : ObjectId) (actor : String)
  | evaluate (id run : ObjectId) (actor : String)
  | evaluateCompleted (limit : Int) (actor : String)

def FindingCall.code : FindingCall → Prog findingSignature Unit
  | .transition id target note evidence => transitionFinding t id target note evidence
  | .link id actor run results => linkFixVerification t id actor run results
  | .schedule id actor => scheduleFindingRetest t id actor
  | .evaluate id run actor => evaluateFindingRetest t id run actor
  | .evaluateCompleted limit actor => evaluateCompletedFindingRetests t limit actor

/-- A caller: one call after the other, whether they raise or not. -/
def callerCode (calls : List FindingCall) : Prog findingSignature Unit :=
  Prog.forEach (fun call => Prog.handle (call.code t) fun _ => .ret ()) calls

end

end ApiManger.Findings
