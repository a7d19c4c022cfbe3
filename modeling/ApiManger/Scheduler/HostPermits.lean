import ApiManger.Python.Sorted
import ApiManger.Scheduler.HostOutcomes

/-!
# Permits of a host

`HostPolicyCoordinator` between threads: the semaphore of each host, the pacing of its
requests and its stop state, which `acquire` goes through in separate critical sections.
A call of `acquire` is where it stands in the code; what the clock shows and what
`should_abort` answers come with each of its moves, and any call may make the next one.
A snapshot keeps the stop state alone: who restores a coordinator from it goes on with new
semaphores, while the calls on the old one end there.
-/

namespace ApiManger.Scheduler
open Python Store Execution Collection

/-! ## The coordinator -/

/-- `HostPolicyCoordinator`: its states, when the next request of a host may start, and the free slots of
the semaphores there are. -/
structure Coordinator where
  hosts : List HostState := []
  nextAllowed : String → ℚ := fun _ => 0
  semaphores : String → Option Nat := fun _ => none

namespace Coordinator

variable (c : Coordinator)

/-- `_state`: a host that is not there is entered. -/
def enter (host : String) : Coordinator :=
  { c with hosts := putHostState c.hosts (hostStateOf c.hosts host) }

/-- The reason a host was stopped for; empty where it is not stopped. -/
def stoppedReason (host : String) : String := (hostStateOf c.hosts host).stoppedReason

/-- `self._semaphores.setdefault(host, …)`. -/
def withSemaphore (policy : ExecutionPolicy) (c : Coordinator) (host : String) : Coordinator :=
  { c with
    semaphores := Function.update c.semaphores host
      (some ((c.semaphores host).getD policy.perHostWorkers.toNat)) }

/-- The slots of a semaphore after one was taken or given back. -/
def setSemaphore (host : String) (free : Nat) : Coordinator :=
  { c with semaphores := Function.update c.semaphores host (some free) }

/-- `BoundedSemaphore.release`: it raises where all slots are free. -/
def releaseSemaphore (policy : ExecutionPolicy) (c : Coordinator) (host : String) :
    Except PyError Coordinator :=
  let free := (c.semaphores host).getD policy.perHostWorkers.toNat
  if free < policy.perHostWorkers.toNat then .ok (c.setSemaphore host (free + 1))
  else .error (.valueError "Semaphore released too many times")

/-- `record_outcome`; where it raises, the host has been entered. -/
def recordOutcome (policy : ExecutionPolicy) (c : Coordinator) (host : String) (evidence : Dict) :
    Coordinator :=
  match recordHostOutcome policy c.hosts host evidence with
  | .ok hosts => { c with hosts }
  | .error _ => c.enter (hostKey host)

def snapshot : List HostState := sortedBy (·.host) c.hosts

/-- `__init__` over a persisted state. -/
def restore (persisted : List HostState) : Coordinator := { hosts := restoreHosts persisted }

end Coordinator

/-! ## Calls of `acquire` -/

/-- What a call of `acquire` ended with. -/
inductive Answer where
  | granted
  | refused (reason : String)
  | raised (e : PyError)
  deriving DecidableEq

/-- Where a call of `acquire` stands. -/
inductive Stage where
  /-- In the first loop. -/
  | waiting
  /-- It took a slot of the semaphore. -/
  | held
  /-- In the second loop, until the time its request may start. -/
  | pacing (startAt : ℚ)
  /-- Behind the second loop. -/
  | paced
  /-- It has read the reason the host is stopped for. -/
  | checked (reason : String)
  | done (answer : Answer)
  deriving DecidableEq

/-- A call of `acquire`: its coordinator and host, where it stands, and how often it took and released the
semaphore. -/
structure Acquire where
  coordinator : Nat
  host : String
  stage : Stage := .waiting
  taken : Nat := 0
  released : Nat := 0

/-- A move of a call, with what `should_abort` answers and what the clock shows. -/
inductive Move where
  | poll (abort : Bool)
  | enter (now : ℚ)
  | pace (now : ℚ) (abort : Bool)
  | check
  | answer (abort : Bool)

/-- `semaphore.release()` and the return without a permit. -/
def Acquire.giveUp (policy : ExecutionPolicy) (c : Coordinator) (call : Acquire) (reason : String) :
    Coordinator × Acquire :=
  match c.releaseSemaphore policy call.host with
  | .ok c => (c, { call with stage := .done (.refused reason), released := call.released + 1 })
  | .error e => (c, { call with stage := .done (.raised e) })

/-- One move of a call of `acquire`; there is none where it does not stand. -/
def Acquire.move (policy : ExecutionPolicy) (c : Coordinator) (call : Acquire) (m : Move) :
    Option (Coordinator × Acquire) :=
  match m, call.stage with
  | .poll abort, .waiting =>
    if abort then some (c, { call with stage := .done (.refused "execution_stopping") })
    else match c.semaphores call.host with
      | some (free + 1) =>
        some (c.setSemaphore call.host free, { call with stage := .held, taken := call.taken + 1 })
      -- the wait for a slot timed out
      | _ => some (c, call)
  | .enter now, .held =>
    let c := c.enter call.host
    if c.stoppedReason call.host != "" then some (call.giveUp policy c (c.stoppedReason call.host))
    else
      let startAt := max now (c.nextAllowed call.host)
      let next := startAt + (policy.minIntervalMs : ℚ) / 1000
      some ({ c with nextAllowed := Function.update c.nextAllowed call.host next },
        { call with stage := .pacing startAt })
  | .pace now abort, .pacing startAt =>
    if 0 < startAt - now then
      if abort then some (call.giveUp policy c "execution_stopping") else some (c, call)
    else some (c, { call with stage := .paced })
  | .check, .paced =>
    let c := c.enter call.host
    some (c, { call with stage := .checked (c.stoppedReason call.host) })
  | .answer abort, .checked reason =>
    if reason != "" || abort then
      some (call.giveUp policy c (if reason != "" then reason else "execution_stopping"))
    else some (c, { call with stage := .done .granted })
  | _, _ => none

/-! ## Runs -/

/-- The coordinators that followed each other, the last of them the current one, with all calls of `acquire`,
the outcomes that were recorded, and how often the permits of a host were released; a release is in excess
where all granted permits had been released before. -/
structure Traffic where
  coordinators : Nat → Coordinator := fun _ => {}
  current : Nat := 0
  calls : List Acquire := []
  outcomes : List (String × Dict) := []
  returned : Nat → String → Nat := fun _ _ => 0
  excess : Nat → String → Nat := fun _ _ => 0

namespace Traffic

variable (w : Traffic)

def now : Coordinator := w.coordinators w.current

def setCoordinator (k : Nat) (c : Coordinator) : Traffic :=
  { w with coordinators := Function.update w.coordinators k c }

/-- Whether a call was granted a permit of the host by the coordinator. -/
def isGranted (k : Nat) (host : String) (call : Acquire) : Bool :=
  call.coordinator == k && call.host == host && call.stage == .done .granted

/-- How many permits of a host a coordinator has granted. -/
def granted (k : Nat) (host : String) : Nat := w.calls.countP (isGranted k host)

/-- The permits of a host that were granted and not released. -/
def outstanding (k : Nat) (host : String) : Int := w.granted k host - w.returned k host

def recorded (host : String) : List Dict :=
  (w.outcomes.filter fun o => o.1 == host).map (·.2)

end Traffic

/-- What any thread may do. -/
inductive Act where
  /-- `acquire` is called: the first critical section. -/
  | acquire (host : String)
  | move (i : Nat) (m : Move)
  /-- `release` of the permit that a call was granted. -/
  | release (i : Nat)
  | record (host : String) (evidence : Dict)
  /-- A new coordinator is restored from a snapshot of the current one. -/
  | split

namespace Traffic

/-- A call of `acquire` is begun; `threading.BoundedSemaphore` raises for a negative value. -/
def acquire (policy : ExecutionPolicy) (w : Traffic) (host : String) : Traffic :=
  let call : Acquire := { coordinator := w.current, host := hostKey host }
  if policy.perHostWorkers < 0 then
    { w with calls := w.calls ++
        [{ call with stage := .done (.raised (.valueError "semaphore initial value must be >= 0")) }] }
  else { w.setCoordinator w.current (w.now.withSemaphore policy call.host) with calls := w.calls ++ [call] }

/-- `n` more of a host at one coordinator. -/
def more (count : Nat → String → Nat) (k : Nat) (host : String) (n : Nat) : Nat → String → Nat :=
  fun j h => if j = k ∧ h = host then count j h + n else count j h

/-- A permit is released: `permit` is the semaphore of the call that was granted it. -/
def release (policy : ExecutionPolicy) (w : Traffic) (call : Acquire) : Traffic :=
  match (w.coordinators call.coordinator).releaseSemaphore policy call.host with
  | .ok c =>
    { w.setCoordinator call.coordinator c with
      returned := more w.returned call.coordinator call.host 1
      excess := more w.excess call.coordinator call.host
        (if w.granted call.coordinator call.host ≤ w.returned call.coordinator call.host then 1 else 0) }
  | .error _ => w

/-- One step of some thread. -/
def step (policy : ExecutionPolicy) (w : Traffic) : Act → Option Traffic
  | .acquire host => some (w.acquire policy host)
  | .move i m =>
    match w.calls[i]? with
    | none => none
    | some call =>
      (call.move policy (w.coordinators call.coordinator) m).map fun (c, call') =>
        { w.setCoordinator call.coordinator c with calls := w.calls.set i call' }
  | .release i =>
    match w.calls[i]? with
    | some call => if call.stage = .done .granted then some (w.release policy call) else none
    | none => none
  | .record host evidence =>
    some { w.setCoordinator w.current (w.now.recordOutcome policy host evidence) with
      outcomes := w.outcomes ++ [(hostKey host, evidence)] }
  | .split =>
    some { w.setCoordinator (w.current + 1) (.restore w.now.snapshot) with current := w.current + 1 }

/-- A run: the steps of all threads, in the order they came. -/
def run (policy : ExecutionPolicy) : Traffic → List Act → Option Traffic
  | w, [] => some w
  | w, a :: acts => (w.step policy a).bind fun w => run policy w acts

end Traffic

end ApiManger.Scheduler
