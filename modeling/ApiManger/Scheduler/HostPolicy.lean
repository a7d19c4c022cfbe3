import ApiManger.Execution.Evidence

/-!
# Host policy

The stop state `HostPolicyCoordinator` keeps for each host: which outcomes it
counts, and when it stops a host. The permits and the pacing only delay a request
and are left out.
-/

namespace ApiManger.Scheduler
open Python Store Execution

/-- `str(host or "<unknown>").lower()`. -/
def hostKey (host : String) : String := (if host == "" then "<unknown>" else host).map Char.toLower

/-- `HostPolicyCoordinator.__init__` over the persisted state. -/
def restoreHosts (persisted : List HostState) : List HostState :=
  persisted.foldl (fun hosts h =>
    let h := { h with host := hostKey h.host }
    if hosts.any (·.host == h.host) then hosts.map fun g => if g.host == h.host then h else g
    else hosts ++ [h]) []

/-- `_state`: the host's state, all counters at zero where there is none. -/
def hostStateOf (hosts : List HostState) (host : String) : HostState :=
  (hosts.find? (·.host == host)).getD ⟨host, 0, 0, 0, ""⟩

def putHostState (hosts : List HostState) (h : HostState) : List HostState :=
  if hosts.any (·.host == h.host) then hosts.map fun g => if g.host == h.host then h else g
  else hosts ++ [h]

/-- A counter has reached a threshold that is in force. -/
def reached (threshold count : Int) : Bool := threshold != 0 && decide (threshold ≤ count)

/-- `status == 429`. -/
def isRateLimit (status : Json) : Bool := status == .int 429 || status == .float "429.0"

/-- `status is not None and 500 <= int(status) < 600`. -/
def isServerError (status : Json) : Except PyError Bool :=
  match status with
  | .null => .ok false
  | status => status.toInt.map fun n => decide (500 ≤ n) && decide (n < 600)

/-- `record_outcome` on the state of one host. -/
def countOutcome (policy : ExecutionPolicy) (h : HostState) (evidence : Dict) :
    Except PyError HostState := do
  let status := Dict.get evidence "status_code"
  if h.stoppedReason != "" then return h
  if hasError evidence then
    let n := h.transportErrors + 1
    return ⟨h.host, n, 0, 0,
      if reached policy.transportErrorStop n then "transport_error_threshold" else ""⟩
  if isRateLimit status then
    let n := h.rateLimits + 1
    return ⟨h.host, 0, n, 0, if reached policy.rateLimitStop n then "rate_limit_threshold" else ""⟩
  if ← isServerError status then
    let n := h.serverErrors + 1
    return ⟨h.host, 0, 0, n, if reached policy.serverErrorStop n then "server_error_threshold" else ""⟩
  return ⟨h.host, 0, 0, 0, ""⟩

/-- `record_outcome`. -/
def recordHostOutcome (policy : ExecutionPolicy) (hosts : List HostState) (host : String)
    (evidence : Dict) : Except PyError (List HostState) :=
  (countOutcome policy (hostStateOf hosts (hostKey host)) evidence).map (putHostState hosts)

theorem countOutcome_stopped {policy : ExecutionPolicy} {h h' : HostState} {evidence : Dict}
    (stopped : h.stoppedReason ≠ "") (count : countOutcome policy h evidence = .ok h') : h' = h := by
  simp only [countOutcome, bne_iff_ne, ne_eq, stopped, not_false_eq_true, if_true] at count
  exact (Except.ok.inj count).symm

end ApiManger.Scheduler
