import Mathlib.Data.List.Sort
import ApiManger.Interleaving.Program
import ApiManger.Scheduler.HostPolicy
import ApiManger.Scheduler.Writes

/-!
# Shared state and atomic operations

What the threads of the execution scheduler share: the Mongo collections, the
clock, and for each dispatch of a run the memory of its worker process (the four
events, the futures, the host coordinator). An `Op` is one Mongo read, one Mongo
update, or one access to that memory. `post` is what an operation does to the
state, `reply` what it answers; any Mongo operation may also fail in the driver,
before or after it was applied.
-/

namespace ApiManger.Scheduler
open Python Store Execution Interleaving

/-! ## State -/

/-- The Mongo collections. -/
structure Database where
  runs : List SecurityTestRun := []
  checkpoints : List SecurityExecutionCheckpoint := []
  results : List SecurityTestResult := []
  snapshots : List RequestSnapshot := []
  relations : List ParameterRelation := []
  nextId : ObjectId := 0

/-- A run as its claim returned it, with the lease token it carries. -/
structure ClaimedRun where
  run : SecurityTestRun
  token : Token
  held : run.leaseToken = some token

/-- What `execute_run` works with. -/
structure Job where
  claimed : ClaimedRun
  adapter : ExecutionAdapter
  policy : ExecutionPolicy
  leaseSeconds : Int

/-- A future of the thread pool. `finished` keeps the exception, if there was one. -/
inductive FutureState where
  | submitted | running
  | finished (exception : Option PyError)
  deriving DecidableEq

structure Slot where
  checkpoint : ObjectId
  state : FutureState := .submitted
  collected : Bool := false

/-- The events of one dispatch: `cancel_event`, `heartbeat.lost_event`, `auth_failure_event` and
the `stop_event` of the worker. They are only ever set. -/
inductive Event where
  | cancel | lost | auth | stop
  deriving DecidableEq

/-- The memory of one `run_once`. -/
structure Dispatch where
  claimed : Option ClaimedRun := none
  job : Option Job := none
  events : List Event := []
  authFailure : Option String := none
  hosts : List HostState := []
  slots : List Slot := []
  heartbeatClosed : Bool := false

/-- One call of an adapter's `replay`. -/
structure Replay where
  worker : Nat
  slot : Nat
  checkpoint : ObjectId

/-- `replays` and `recorded` are histories: the replays started, and the results an adapter's
`record` hook was applied to. -/
structure State where
  db : Database := {}
  now : Timestamp := 0
  nextToken : Token := 0
  workers : Nat → Dispatch := fun _ => {}
  replays : List Replay := []
  recorded : List ObjectId := []

/-- Threads: an API call, a worker in one `run_once`, a pool thread of it, its heartbeat. -/
inductive Tid where
  | call (n : Nat)
  | worker (w : Nat)
  | pool (w k : Nat)
  | heartbeat (w : Nat)
  deriving DecidableEq

/-- The dispatch whose memory a thread uses. -/
def Tid.dispatch? : Tid → Option Nat
  | .call _ => none
  | .worker w | .pool w _ | .heartbeat w => some w

/-! ## Operations -/

/-- `security_test_run.objects(...).first()`. -/
inductive RunFilter where
  | byId (id : ObjectId)
  | managed (id : ObjectId)
  | byKey (key : IdempotencyKey)
  | pausedOn (id : ObjectId) (revision : String)

variable (r : SecurityTestRun)

def RunFilter.accepts : RunFilter → Bool
  | byId id => r.id == id
  | managed id => r.id == id && r.schedulerManaged
  | byKey key => r.idempotencyKey == some key
  | pausedOn id revision => r.id == id && r.schedulerManaged && r.status == .paused &&
      r.dependencyType == "auth_profile" && r.dependencyId == revision

/-- The five queries of `recover_expired_executions`. An empty queue name is no restriction. -/
inductive RunQuery where
  | preparing (cutoff : Timestamp) (queue : String)
  | expired (now : Timestamp) (queue : String)
  | orphaned (cutoff : Timestamp) (queue : String)
  | legacy (cutoff : Timestamp)
  | cancelRequested (now : Timestamp) (queue : String)

def inQueue (queue : String) : Bool := queue == "" || r.queueName == queue

def RunQuery.accepts : RunQuery → Bool
  | preparing cutoff queue => r.schedulerManaged && r.status == .preparing &&
      decide (r.updatedAt ≤ cutoff) && inQueue r queue
  | expired now queue => r.schedulerManaged && r.status == .running && RunWrite.expiredAt r now &&
      inQueue r queue
  | orphaned cutoff queue => r.schedulerManaged && r.status == .running &&
      RunWrite.startedBy r cutoff && r.leaseExpiresAt.isNone && inQueue r queue
  | legacy cutoff => !r.schedulerManaged && r.status == .running && RunWrite.startedBy r cutoff
  | cancelRequested now queue => r.schedulerManaged && r.status == .cancelRequested &&
      (RunWrite.expiredAt r now || r.leaseExpiresAt.isNone) && inQueue r queue

/-- What an adapter's `replay` does next: report progress, ask the request executor for a permit
or hand it the evidence of one request, return, or raise. -/
inductive ReplayStep where
  | progress (summary : Dict)
  | request
  | requestDone (evidence : Dict)
  | returned (evidence : Dict)
  | raised (e : PyError)

/-- `_sync_parameter_relation_run_state`, for a run of the parameter validation adapter. -/
structure RelationSync where
  run : ObjectId
  status : String
  reason : String
  now : Timestamp

def RelationSync.accepts (r : ParameterRelation) (w : RelationSync) : Bool :=
  r.lastValidationRunId == some w.run &&
    if w.status == "running" then
      ["running", "needs_context", "automatic_failed"].contains r.preprocessStatus
    else r.preprocessStatus == "running"

def RelationSync.on (w : RelationSync) (r : ParameterRelation) : ParameterRelation :=
  if accepts r w then { r with
    preprocessStatus := w.status, mtime := w.now,
    preprocessReasonCodes :=
      if w.reason == "" then r.preprocessReasonCodes else [(w.reason.take 120).toString] }
  else r

inductive Op where
  | utcnow
  | uuid4
  /-- Whether a `time.monotonic()` interval has passed. -/
  | intervalPassed
  /-- How often a `while` loop goes round before it ends or waits for ever. -/
  | rounds
  /-- Waiting for ever. -/
  | hang
  | findRun (f : RunFilter)
  | queryRuns (q : RunQuery)
  | insertRun (r : SecurityTestRun)
  | claimRun (worker queue : String) (now expires : Timestamp)
  | updateRun (w : RunWrite)
  | countCheckpoints (run : ObjectId) (status : CheckpointStatus)
  | findCheckpoints (run : ObjectId) (statuses : List CheckpointStatus)
  | findHeld (id : ObjectId) (token : Token)
  | upsertCheckpoint (c : SecurityExecutionCheckpoint)
  | claimCheckpoint (id run : ObjectId) (token : Token) (now : Timestamp)
  | updateCheckpoints (w : CheckpointWrite)
  | findSnapshots (ids : List ObjectId)
  | findResult (key : String)
  | insertResult (r : SecurityTestResult)
  | syncRelations (w : RelationSync)
  | startExecution (job : Job)
  | isSet (e : Event)
  | set (e : Event)
  | noteAuthFailure (errorType : String)
  | authFailure
  | submit (checkpoint : ObjectId)
  | inFlight
  | collectDone
  | joinFutures
  | closeHeartbeat
  | heartbeatWait
  | complete (exception : Option PyError)
  | acquire (host : String)
  | recordOutcome (host : String) (evidence : Dict)
  | hostState
  | resolveAccount (host : String)
  | startReplay (checkpoint : ObjectId)
  | replayStep
  | recordHook (result : ObjectId)

/-- A checkpoint as its claim returned it. -/
structure ClaimedCheckpoint (id run : ObjectId) where
  doc : SecurityExecutionCheckpoint
  isId : doc.id = id
  ofRun : doc.runId = run

/-- What each operation answers. `acquire` answers with the reason when it refuses. -/
def Ret : Op → Type
  | .utcnow => Timestamp
  | .uuid4 => Token
  | .intervalPassed | .isSet _ | .heartbeatWait => Bool
  | .rounds | .inFlight | .countCheckpoints .. => Nat
  | .findRun _ => Option SecurityTestRun
  | .queryRuns _ => List SecurityTestRun
  | .insertRun _ => SecurityTestRun
  | .claimRun .. => Option ClaimedRun
  | .updateRun _ => Bool
  | .findCheckpoints .. => List SecurityExecutionCheckpoint
  | .findHeld id _ => Option {c : SecurityExecutionCheckpoint // c.id = id}
  | .claimCheckpoint id run _ _ => Option (ClaimedCheckpoint id run)
  | .findSnapshots _ => List RequestSnapshot
  | .findResult _ => Option SecurityTestResult
  | .insertResult _ => SecurityTestResult
  | .authFailure => Option String
  | .collectDone => List (ObjectId × Option PyError)
  | .acquire _ => Option String
  | .hostState => List HostState
  | .replayStep => ReplayStep
  | .hang | .upsertCheckpoint _ | .updateCheckpoints _ | .syncRelations _ | .startExecution _ | .set _
  | .noteAuthFailure _ | .submit _ | .joinFutures | .closeHeartbeat | .complete _
  | .recordOutcome .. | .resolveAccount _ | .startReplay _ | .recordHook _ => Unit

/-- The operations of the scheduler. -/
abbrev Sig : Signature := ⟨Op, Ret, PyError⟩

/-- A driver failure, before or after the server applied the operation. -/
inductive Fault where
  | before | after
  deriving DecidableEq

/-- What the outside decides at one operation. -/
structure Input where
  fault : Option Fault := none
  flag : Bool := false
  count : Nat := 0
  /-- The run a claim takes among those that sort first. -/
  chosen : ObjectId := 0
  step : ReplayStep := .returned []
  account : Except PyError Unit := .ok ()
  hook : Except PyError Unit := .ok ()

/-- The operations that go to Mongo. -/
def Op.isStore : Op → Bool
  | findRun _ | queryRuns _ | insertRun _ | claimRun .. | updateRun _ | countCheckpoints ..
  | findCheckpoints .. | findHeld .. | upsertCheckpoint _ | claimCheckpoint ..
  | updateCheckpoints _ | findSnapshots _ | findResult _ | insertResult _ | syncRelations _ => true
  | _ => false

namespace Database

variable (db : Database)

/-- The runs a claim may take. -/
def claimable (queue : String) : List SecurityTestRun :=
  db.runs.filter fun r => r.schedulerManaged && r.queueName == queue && r.status == .queued

/-- `a` sorts strictly before `b` under `order_by("-priority", "queued_at")`; an unset date sorts
first. -/
def sortsBefore (a b : SecurityTestRun) : Bool :=
  decide (b.priority < a.priority) || a.priority == b.priority &&
    match a.queuedAt, b.queuedAt with
    | none, some _ => true
    | some x, some y => decide (x < y)
    | _, none => false

/-- The run a claim takes: none that may be claimed sorts before it. -/
def firstClaimable (queue : String) (chosen : ObjectId) : Option SecurityTestRun :=
  (db.claimable queue).find? fun r =>
    r.id == chosen && (db.claimable queue).all fun other => !sortsBefore other r

def updateRun (w : RunWrite) : Database := { db with runs := db.runs.map w.on }

/-- Whether the update matched a document. -/
def matchesRun (w : RunWrite) : Bool :=
  db.runs.any fun r => r.id == w.target && RunWrite.guard r w

def updateCheckpoints (w : CheckpointWrite) : Database :=
  { db with checkpoints := db.checkpoints.map w.on }

/-- The checkpoint a claim takes. -/
def openCheckpoint (id run : ObjectId) (c : SecurityExecutionCheckpoint) : Bool :=
  c.id == id && c.runId == run && c.status == .pending

def heldCheckpoint (id : ObjectId) (token : Token) :
    Option {c : SecurityExecutionCheckpoint // c.id = id} :=
  match h : db.checkpoints.find? fun c => c.id == id && CheckpointWrite.heldBy c token with
  | some c => some ⟨c, by have := List.find?_some h; simp_all⟩
  | none => none

end Database

def claimUpdate (worker : String) (token : Token) (now expires : Timestamp) :
    SecurityTestRun := { r with
  status := .running, leaseOwner := worker, leaseToken := some token,
  leaseExpiresAt := some expires, heartbeatAt := some now, startedAt := some now,
  updatedAt := now, dispatchAttempt := r.dispatchAttempt + 1 }

def newClaim (worker : String) (token : Token) (now expires : Timestamp) :
    ClaimedRun := ⟨claimUpdate r worker token now expires, token, rfl⟩

def claimCheckpointUpdate (c : SecurityExecutionCheckpoint) (token : Token) (now : Timestamp) :
    SecurityExecutionCheckpoint := { c with
  status := .running, leaseToken := some token, startedAt := some now, updatedAt := now,
  attemptCount := c.attemptCount + 1 }

def Database.claimedCheckpoint (db : Database) (id run : ObjectId) (token : Token) (now : Timestamp) :
    Option (ClaimedCheckpoint id run) :=
  match h : db.checkpoints.find? (openCheckpoint id run) with
  | some c => some ⟨claimCheckpointUpdate c token now,
      by have := List.find?_some h; simp_all [openCheckpoint, claimCheckpointUpdate],
      by have := List.find?_some h; simp_all [openCheckpoint, claimCheckpointUpdate]⟩
  | none => none

theorem Database.claimedCheckpoint_doc (db : Database) (id run : ObjectId) (token : Token)
    (now : Timestamp) : (db.claimedCheckpoint id run token now).map (·.doc) =
      (db.checkpoints.find? (openCheckpoint id run)).map (claimCheckpointUpdate · token now) := by
  unfold claimedCheckpoint
  split <;> simp [*]

def notUniqueError : PyError := .other "NotUniqueError"
def driverError : PyError := .other "AutoReconnect"

namespace Dispatch

variable (d : Dispatch)

def isSet (e : Event) : Bool := d.events.contains e

/-- The futures that finished and were not collected yet. -/
def done : List Slot :=
  d.slots.filter fun slot => !slot.collected && (slot.state matches .finished _)

def collect : Dispatch :=
  { d with slots := d.slots.map fun slot =>
      if slot.state matches .finished _ then { slot with collected := true } else slot }

def setSlot (k : Nat) (state : FutureState) : Dispatch :=
  { d with slots := d.slots.modify k fun slot => { slot with state := state } }

def policy : ExecutionPolicy := (d.job.map (·.policy)).getD {}

/-- The reason for which a request to `host` is refused. -/
def stoppedReason (host : String) : String :=
  (hostStateOf d.hosts (hostKey host)).stoppedReason

end Dispatch

namespace State

/-- Change the memory of the dispatch the thread belongs to. -/
def onDispatch (s : State) (t : Tid) (f : Dispatch → Dispatch) : Option State :=
  t.dispatch?.map fun w => { s with workers := Function.update s.workers w (f (s.workers w)) }

/-- The memories after the dispatch of a thread was given a run. -/
def giveRun (s : State) (t : Tid) (claimed : ClaimedRun) (w : Nat) : Dispatch :=
  if t.dispatch? = some w then { s.workers w with claimed := some claimed } else s.workers w

/-- The memory of the dispatch the thread belongs to. -/
def dispatch (s : State) (t : Tid) : Dispatch := (t.dispatch?.map s.workers).getD {}

end State

/-- What an operation that is not lost does to the state; `none` where it cannot go on. -/
def post (t : Tid) (i : Input) (s : State) : Op → Option State
  | .hang => none
  | .uuid4 => some { s with nextToken := s.nextToken + 1 }
  | .insertRun r =>
    if r.idempotencyKey.isSome && s.db.runs.any (·.idempotencyKey == r.idempotencyKey) then some s
    else some { s with db := { s.db with
      runs := s.db.runs ++ [{ r with id := s.db.nextId }], nextId := s.db.nextId + 1 } }
  | .claimRun worker queue now expires =>
    match s.db.firstClaimable queue i.chosen with
    | some r =>
      some { s with
        db := { s.db with runs := s.db.runs.map fun q =>
          if q.id = r.id then claimUpdate r worker s.nextToken now expires else q }
        nextToken := s.nextToken + 1
        workers := s.giveRun t (newClaim r worker s.nextToken now expires) }
    | none => if (s.db.claimable queue).isEmpty then some s else none
  | .updateRun w => some { s with db := s.db.updateRun w }
  | .upsertCheckpoint c =>
    if s.db.checkpoints.any fun d => d.runId == c.runId && d.snapshotId == c.snapshotId then some s
    else some { s with db := { s.db with
      checkpoints := s.db.checkpoints ++ [{ c with id := s.db.nextId }], nextId := s.db.nextId + 1 } }
  | .claimCheckpoint id run token now => some { s with db := { s.db with
      checkpoints := s.db.checkpoints.map fun c =>
        if Database.openCheckpoint id run c then claimCheckpointUpdate c token now else c } }
  | .updateCheckpoints w => some { s with db := s.db.updateCheckpoints w }
  | .insertResult r =>
    if r.executionKey.isSome && s.db.results.any (·.executionKey == r.executionKey) then some s
    else some { s with db := { s.db with
      results := s.db.results ++ [{ r with id := s.db.nextId }], nextId := s.db.nextId + 1 } }
  | .syncRelations w => some { s with db := { s.db with relations := s.db.relations.map w.on } }
  | .startExecution job => s.onDispatch t fun d => { d with
      job := some job, hosts := restoreHosts job.claimed.run.hostState }
  | .set e => s.onDispatch t fun d => { d with events := e :: d.events }
  | .noteAuthFailure errorType => s.onDispatch t fun d => { d with
      authFailure := d.authFailure.or (some errorType) }
  | .submit checkpoint => s.onDispatch t fun d => { d with
      slots := d.slots ++ [{ checkpoint := checkpoint }] }
  | .collectDone => s.onDispatch t Dispatch.collect
  | .joinFutures =>
    if (s.dispatch t).slots.all fun slot => slot.state matches .finished _ then some s else none
  | .closeHeartbeat => s.onDispatch t fun d => { d with heartbeatClosed := true }
  | .complete exception => match t with
    | .pool w k => some { s with
        workers := Function.update s.workers w ((s.workers w).setSlot k (.finished exception)) }
    | _ => none
  | .acquire host =>
    if i.flag && (s.dispatch t).events.isEmpty then none
    else s.onDispatch t fun d => { d with
      hosts := putHostState d.hosts (hostStateOf d.hosts (hostKey host)) }
  | .recordOutcome host evidence => s.onDispatch t fun d => { d with
      hosts := match recordHostOutcome d.policy d.hosts host evidence with
        | .ok hosts => hosts
        | .error _ => putHostState d.hosts (hostStateOf d.hosts (hostKey host)) }
  | .startReplay checkpoint => match t with
    | .pool w k => some { s with replays := s.replays ++ [⟨w, k, checkpoint⟩] }
    | _ => none
  | .recordHook result => match i.hook with
    | .ok () => some { s with recorded := s.recorded ++ [result] }
    | .error _ => some s
  | .utcnow | .intervalPassed | .rounds | .findRun _ | .queryRuns _ | .countCheckpoints ..
  | .findCheckpoints .. | .findHeld .. | .findSnapshots _ | .findResult _ | .isSet _ | .authFailure
  | .inFlight | .heartbeatWait | .hostState | .resolveAccount _ | .replayStep => some s

/-- What an operation that is not lost answers, judged on the state before it. -/
def reply (t : Tid) (i : Input) (s : State) : (o : Op) → Except PyError (Ret o)
  | .utcnow => .ok s.now
  | .uuid4 => .ok s.nextToken
  | .intervalPassed => .ok i.flag
  | .rounds => .ok i.count
  | .findRun f => .ok (s.db.runs.find? (RunFilter.accepts · f))
  | .queryRuns q => .ok (s.db.runs.filter (RunQuery.accepts · q))
  | .insertRun r =>
    if r.idempotencyKey.isSome && s.db.runs.any (·.idempotencyKey == r.idempotencyKey) then
      .error notUniqueError
    else .ok { r with id := s.db.nextId }
  | .claimRun worker queue now expires => .ok <| (s.db.firstClaimable queue i.chosen).map fun r =>
      newClaim r worker s.nextToken now expires
  | .updateRun w => .ok (s.db.matchesRun w)
  | .countCheckpoints run status =>
    .ok (s.db.checkpoints.filter fun c => c.runId == run && c.status == status).length
  | .findCheckpoints run statuses => .ok <|
      (s.db.checkpoints.filter fun c => c.runId == run && statuses.contains c.status).insertionSort
        (·.ordinal ≤ ·.ordinal)
  | .findHeld id token => .ok (s.db.heldCheckpoint id token)
  | .claimCheckpoint id run token now => .ok (s.db.claimedCheckpoint id run token now)
  | .findSnapshots ids => .ok (s.db.snapshots.filter fun x => ids.contains x.id)
  | .findResult key => .ok (s.db.results.find? (·.executionKey == some key))
  | .insertResult r =>
    if r.executionKey.isSome && s.db.results.any (·.executionKey == r.executionKey) then
      .error notUniqueError
    else .ok { r with id := s.db.nextId }
  | .isSet e => .ok ((s.dispatch t).isSet e)
  | .authFailure => .ok (s.dispatch t).authFailure
  | .inFlight => .ok ((s.dispatch t).slots.filter fun slot => !slot.collected).length
  | .collectDone => .ok <| (s.dispatch t).done.map fun slot => (slot.checkpoint,
      match slot.state with
      | .finished exception => exception
      | _ => none)
  | .heartbeatWait => .ok (s.dispatch t).heartbeatClosed
  | .acquire host => .ok <| if i.flag then some "execution_stopping"
      else if (s.dispatch t).stoppedReason host == "" then none
      else some ((s.dispatch t).stoppedReason host)
  | .recordOutcome host evidence =>
    (recordHostOutcome (s.dispatch t).policy (s.dispatch t).hosts host evidence).map fun _ => ()
  | .hostState => .ok ((s.dispatch t).hosts.insertionSort (·.host ≤ ·.host))
  | .resolveAccount _ => i.account
  | .replayStep => .ok i.step
  | .recordHook _ => i.hook
  | .hang | .upsertCheckpoint _ | .updateCheckpoints _ | .syncRelations _ | .startExecution _
  | .set _ | .noteAuthFailure _ | .submit _ | .joinFutures | .closeHeartbeat | .complete _
  | .startReplay _ => .ok ()

/-- One operation. A driver failure hides the answer; one before the server applied the operation
also leaves the state as it was. -/
def exec (t : Tid) (o : Op) (i : Input) (s : State) : Option (Except PyError (Ret o) × State) :=
  match o.isStore, i.fault with
  | true, some .before => some (.error driverError, s)
  | true, some .after => (post t i s o).map fun s' => (.error driverError, s')
  | _, _ => (post t i s o).map fun s' => (reply t i s o, s')

/-! ## The operations as code

One step of `Code` for each operation, under the name the source has for it.
-/

/-- Code of the scheduler. -/
abbrev Code (α : Type) := Prog Sig α

abbrev utcnow : Code Timestamp := @Prog.perform Sig .utcnow
abbrev uuid4 : Code Token := @Prog.perform Sig .uuid4
abbrev intervalPassed : Code Bool := @Prog.perform Sig .intervalPassed
abbrev rounds : Code Nat := @Prog.perform Sig .rounds
abbrev hang : Code Unit := @Prog.perform Sig .hang
abbrev findRun (f : RunFilter) : Code (Option SecurityTestRun) := @Prog.perform Sig (.findRun f)
abbrev queryRuns (q : RunQuery) : Code (List SecurityTestRun) := @Prog.perform Sig (.queryRuns q)
abbrev insertRun (r : SecurityTestRun) : Code SecurityTestRun := @Prog.perform Sig (.insertRun r)
abbrev claimRun (worker queue : String) (now expires : Timestamp) : Code (Option ClaimedRun) :=
  @Prog.perform Sig (.claimRun worker queue now expires)
abbrev updateRun (w : RunWrite) : Code Bool := @Prog.perform Sig (.updateRun w)
abbrev countCheckpoints (run : ObjectId) (status : CheckpointStatus) : Code Nat :=
  @Prog.perform Sig (.countCheckpoints run status)
abbrev findCheckpoints (run : ObjectId) (statuses : List CheckpointStatus) :
    Code (List SecurityExecutionCheckpoint) := @Prog.perform Sig (.findCheckpoints run statuses)
abbrev findHeld (id : ObjectId) (token : Token) :
    Code (Option {c : SecurityExecutionCheckpoint // c.id = id}) :=
  @Prog.perform Sig (.findHeld id token)
abbrev upsertCheckpoint (c : SecurityExecutionCheckpoint) : Code Unit :=
  @Prog.perform Sig (.upsertCheckpoint c)
abbrev claimCheckpoint (id run : ObjectId) (token : Token) (now : Timestamp) :
    Code (Option (ClaimedCheckpoint id run)) := @Prog.perform Sig (.claimCheckpoint id run token now)
abbrev updateCheckpoints (w : CheckpointWrite) : Code Unit :=
  @Prog.perform Sig (.updateCheckpoints w)
abbrev findSnapshots (ids : List ObjectId) : Code (List RequestSnapshot) :=
  @Prog.perform Sig (.findSnapshots ids)
abbrev findResult (key : String) : Code (Option SecurityTestResult) :=
  @Prog.perform Sig (.findResult key)
abbrev insertResult (r : SecurityTestResult) : Code SecurityTestResult :=
  @Prog.perform Sig (.insertResult r)
abbrev syncRelations (w : RelationSync) : Code Unit := @Prog.perform Sig (.syncRelations w)
abbrev startExecution (job : Job) : Code Unit := @Prog.perform Sig (.startExecution job)
abbrev isSet (e : Event) : Code Bool := @Prog.perform Sig (.isSet e)
abbrev setEvent (e : Event) : Code Unit := @Prog.perform Sig (.set e)
abbrev noteAuthFailure (errorType : String) : Code Unit := @Prog.perform Sig (.noteAuthFailure errorType)
abbrev authFailure : Code (Option String) := @Prog.perform Sig .authFailure
abbrev submit (checkpoint : ObjectId) : Code Unit := @Prog.perform Sig (.submit checkpoint)
abbrev inFlight : Code Nat := @Prog.perform Sig .inFlight
abbrev collectDone : Code (List (ObjectId × Option PyError)) := @Prog.perform Sig .collectDone
abbrev joinFutures : Code Unit := @Prog.perform Sig .joinFutures
abbrev closeHeartbeat : Code Unit := @Prog.perform Sig .closeHeartbeat
abbrev heartbeatWait : Code Bool := @Prog.perform Sig .heartbeatWait
abbrev complete (exception : Option PyError) : Code Unit := @Prog.perform Sig (.complete exception)
abbrev acquire (host : String) : Code (Option String) := @Prog.perform Sig (.acquire host)
abbrev recordOutcome (host : String) (evidence : Dict) : Code Unit :=
  @Prog.perform Sig (.recordOutcome host evidence)
abbrev hostState : Code (List HostState) := @Prog.perform Sig .hostState
abbrev resolveAccount (host : String) : Code Unit := @Prog.perform Sig (.resolveAccount host)
abbrev startReplay (checkpoint : ObjectId) : Code Unit := @Prog.perform Sig (.startReplay checkpoint)
abbrev replayStep : Code ReplayStep := @Prog.perform Sig .replayStep
abbrev recordHook (result : ObjectId) : Code Unit := @Prog.perform Sig (.recordHook result)

/-- Raise a pure failure. -/
abbrev ofExcept {α : Type} (x : Except PyError α) : Code α := @Prog.ofExcept Sig α x

/-- `checkpoint_counts`: six queries, one after another. -/
def checkpointCounts (run : ObjectId) : Code Counts := do
  let pending ← countCheckpoints run .pending
  let running ← countCheckpoints run .running
  let completed ← countCheckpoints run .done
  let failed ← countCheckpoints run .error
  let skipped ← countCheckpoints run .skipped
  let cancelled ← countCheckpoints run .cancelled
  return ⟨pending, running, completed, failed, skipped, cancelled⟩

def syncParameterRelationRunState (run : SecurityTestRun) (status reason : String) : Code Unit :=
  Prog.when (run.adapterId == "parameter_relation_validation") do
    let now ← utcnow
    syncRelations ⟨run.id, status, reason, now⟩

def heartbeatExecution (run : ObjectId) (token : Token) (leaseSeconds : Int) : Code Bool := do
  let now ← utcnow
  updateRun (.heartbeat run token now (now + leaseSeconds))

def claimNextExecution (worker queue : String) (leaseSeconds : Int) : Code (Option ClaimedRun) := do
  if worker == "" then throw (.valueError "worker_id is required")
  else if !between 15 leaseSeconds 3600 then
    throw (.valueError "lease_seconds must be between 15 and 3600")
  else
    let now ← utcnow
    claimRun worker queue now (now + leaseSeconds)

end ApiManger.Scheduler
