import ApiManger.Scheduler.Worker

/-!
# The scheduler as a machine

Any number of API calls, workers, pool threads and heartbeats over one shared
state. A worker thread is one `run_once`; `run_forever` is one after another, and
nothing but the stop event of the process outlives a dispatch.
-/

namespace ApiManger.Scheduler
open Python Store Execution Interleaving

/-- The calls of the application. -/
inductive Request where
  | enqueue (q : EnqueueRequest)
  | cancel (run : ObjectId) (reason : String)
  | resume (run : ObjectId)
  | resumeAuth (run : ObjectId) (revision : String)
  | retry (run : ObjectId) (statuses : List CheckpointStatus) (operator : String)
  | createRun (checkType : String) (context : ExecutionContext)
  | recover (queue : String) (orphanGrace legacyStale : Int)

/-- Forget the value of a call. -/
def discard {α : Type} (p : Code α) : Code Unit := Prog.bind p fun _ => .ret ()

def Request.code : Request → Code Unit
  | enqueue q => discard (enqueueSnapshotBatch q)
  | cancel run reason => discard (requestExecutionCancel run reason)
  | resume run => discard (resumeExecution run)
  | resumeAuth run revision => discard (resumeAuthDependency run revision)
  | retry run statuses operator => discard (retryExecution run statuses operator)
  | createRun checkType context => discard (createExecutionRun checkType context)
  | recover queue orphanGrace legacyStale =>
    recoverExpiredExecutions queue orphanGrace legacyStale

/-- What the outside decides at a step: a call, a worker coming up, a thread of it starting, the
outcome of an operation, and, for the environment, time passing, a worker told to stop, and
another part of the application writing snapshots. -/
inductive Decision where
  | request (r : Request)
  | worker (setup : WorkerSetup)
  | spawn
  | op (i : Input)
  | elapse (seconds : Nat)
  | stop (w : Nat)
  | snapshots (stored : List RequestSnapshot)

/-- How a thread starts. A pool thread takes a submitted future, a heartbeat a started job. -/
def startThread (t : Tid) (d : Decision) (s : State) : Option (Code Unit × State) :=
  match t, d with
  | .call _, .request r => some (r.code, s)
  | .worker _, .worker setup => some (runOnce setup, s)
  | .pool w k, .spawn =>
    match (s.workers w).job, (s.workers w).slots[k]? with
    | some job, some slot =>
      if slot.state = .submitted then
        some (poolThread job slot.checkpoint, { s with
          workers := Function.update s.workers w ((s.workers w).setSlot k .running) })
      else none
    | _, _ => none
  | .heartbeat w, .spawn => (s.workers w).job.map fun job => (heartbeatThread job, s)
  | _, _ => none

def environment (d : Decision) (s : State) : Option State :=
  match d with
  | .elapse seconds => some { s with now := s.now + seconds }
  | .stop w => some { s with
      workers := Function.update s.workers w
        { s.workers w with events := .stop :: (s.workers w).events } }
  | .snapshots stored => some { s with db := { s.db with snapshots := stored } }
  | _ => none

/-- The execution scheduler. -/
abbrev scheduler : Machine Sig where
  State := State
  Tid := Tid
  Input := Decision
  exec t o d s := match d with
    | .op i => exec t o i s
    | _ => none
  start := startThread
  environment := environment

/-- No runs yet: what a run of the scheduler starts from. -/
def fresh (snapshots : List RequestSnapshot) (relations : List ParameterRelation) : State where
  db := { snapshots := snapshots, relations := relations }

/-- The configuration before any call. -/
def initial (snapshots : List RequestSnapshot) (relations : List ParameterRelation) :
    Config scheduler := Config.initial (fresh snapshots relations)

/-! ## Schedules -/

/-- A thread takes `n` steps with one outcome. -/
def steps (t : Tid) (n : Nat) (i : Input) : List (Label scheduler) :=
  List.replicate n (.step t (.op i))

/-- A call starts and takes `n` steps. -/
def called (k : Nat) (r : Request) (n : Nat) : List (Label scheduler) :=
  .start (.call k) (.request r) :: steps (.call k) n {}

/-- A worker comes up and takes `n` steps. -/
def worked (w : Nat) (n : Nat) (i : Input) : List (Label scheduler) :=
  .start (.worker w) (.worker { workerId := "worker" }) :: steps (.worker w) n i

/-- A pool thread starts on its future and takes `n` steps. -/
def pooled (w k : Nat) (n : Nat) (i : Input) : List (Label scheduler) :=
  .start (.pool w k) .spawn :: steps (.pool w k) n i

end ApiManger.Scheduler
