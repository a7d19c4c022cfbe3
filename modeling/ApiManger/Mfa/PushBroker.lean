import Mathlib.Data.List.Sort
import ApiManger.Mfa.Codes
import ApiManger.Transition.System

/-!
# The in-memory broker

`MfaPushBroker`: a wait call puts its transaction into the inbox, and a delivery puts
a code into a transaction that is still there. A transaction that leaves the inbox
stays an object of its wait call, so `transactions` keeps every one. Each action is
one block under the lock, or the reading of a clock before it.
-/

namespace ApiManger.Mfa
open Python Transition

/-! ## The state -/

structure PendingTransaction where
  transactionId : String
  receiverId : String
  correlation : String
  createdAt : ℕ
  expiresAt : ℕ
  code : Option String := none

/-- Where a call of `wait` stands: before it reads its deadline, before the lock, in `condition.wait`, or over. -/
inductive WaitPhase where
  | created
  | entering (deadline : ℕ)
  | waiting (deadline : ℕ)
  | ended (outcome : Outcome)

/-- A call of `wait`, with its timeout. -/
structure WaitCall where
  timeout : ℕ
  phase : WaitPhase

/-- The broker with its clock: the transactions of all wait calls, the keys of `_pending` in order, and
the deliveries that were accepted. -/
structure Broker where
  clock : ℕ
  maxPending : ℕ
  transactions : Mapping PendingTransaction := .empty
  pending : List String := []
  waits : Mapping WaitCall := .empty
  accepted : List (String × String) := []

/-- `__init__`. -/
def Broker.new (maxPending : Int) (clock : ℕ) : Broker :=
  { clock := clock, maxPending := (max 1 (min maxPending maxPendingTransactions)).toNat }

namespace Broker

variable (s : Broker)

/-- `_cleanup_locked`. -/
def cleanup (now : ℕ) : Broker :=
  { s with pending := s.pending.filter fun t => !(s.transactions.get? t).any fun item => decide (item.expiresAt ≤ now) }

/-- `_pending.pop(transaction_id, None)`. -/
def pop (t : String) : Broker := { s with pending := s.pending.filter (· != t) }

/-- The wait call of the transaction goes on to a phase. -/
def moveTo (t : String) (call : WaitCall) (phase : WaitPhase) : Broker :=
  { s with waits := s.waits.set t { call with phase := phase } }

/-! ## The calls -/

/-- `wait`, as far as the transaction is made. -/
def wait (token receiver correlation : String) (timeoutSeconds : Int) : Option Broker :=
  match normalizeReceiverId receiver with
  | .error _ => some s
  | .ok receiverId =>
    let t := "mfa-" ++ token
    -- a token is drawn for one call only
    if (s.waits.get? t).isSome then none
    else some { s with
      transactions := s.transactions.set t {
        transactionId := t, receiverId := receiverId, correlation := normalizeCorrelation correlation
        createdAt := s.clock, expiresAt := s.clock + waitMillis timeoutSeconds }
      waits := s.waits.set t ⟨waitMillis timeoutSeconds, .created⟩ }

/-- One turn of the loop of `wait`, under the lock. -/
def loop (t : String) (call : WaitCall) (item : PendingTransaction) (deadline : ℕ) : Broker :=
  match item.code with
  | some code => (s.pop t).moveTo t call (.ended (validateMfaCode (.str code)))
  | none =>
    if deadline ≤ s.clock then (s.pop t).moveTo t call (.ended (.error receiverTimedOut))
    else s.moveTo t call (.waiting deadline)

/-- The next step of a wait call. -/
def advance (t : String) : Option Broker :=
  match s.waits.get? t, s.transactions.get? t with
  | some call, some item => match call.phase with
    | .created => some (s.moveTo t call (.entering (s.clock + call.timeout)))
    | .entering deadline =>
      let cleaned := s.cleanup item.createdAt
      if cleaned.maxPending ≤ cleaned.pending.length then
        some (cleaned.moveTo t call (.ended (.error (.receiverError "MFA receiver queue is full"))))
      else some (loop { cleaned with pending := cleaned.pending ++ [t] } t call item deadline)
    | .waiting deadline => some (loop s t call item deadline)
    | .ended _ => none
  | _, _ => none

def deliver (transactionId : String) (code : Json) : Except MfaError (Bool × Broker) := do
  let code ← validateMfaCode code
  let t := stripped transactionId
  let cleaned := s.cleanup s.clock
  if cleaned.pending.contains t then match cleaned.transactions.get? t with
    | some item => match item.code with
      | some _ => return (false, cleaned)
      | none => return (true, { cleaned with
          transactions := cleaned.transactions.set t { item with code := some code }
          accepted := cleaned.accepted ++ [(t, code)] })
    | none => return (false, cleaned)
  else return (false, cleaned)

/-- The receiver that `pending` is asked about; the empty one stands for all. -/
def selectedReceiver (receiver : String) : Except MfaError String :=
  if stripped receiver != "" then normalizeReceiverId receiver else .ok ""

/-- `pending`. -/
def pendingRows (receiver : String) : Except MfaError (List PendingTransaction × Broker) := do
  let selected ← selectedReceiver receiver
  let cleaned := s.cleanup s.clock
  let rows := (cleaned.pending.filterMap cleaned.transactions.get?).filter fun item =>
    selected == "" || item.receiverId == selected
  return ((rows.mergeSort fun a b => decide (a.createdAt ≤ b.createdAt)).take maxPendingTransactions, cleaned)

end Broker

/-- What happens to a broker. -/
inductive BrokerAction where
  | wait (token receiver correlation : String) (timeoutSeconds : Int)
  | advance (t : String)
  | deliver (transactionId : String) (code : Json)
  | pending (receiver : String)
  | pass (millis : ℕ)

/-- The broker and its callers. A call that raises leaves the broker as it is. -/
def brokerSystem : System Broker BrokerAction where
  step s
    | .wait token receiver correlation timeoutSeconds => s.wait token receiver correlation timeoutSeconds
    | .advance t => s.advance t
    | .deliver transactionId code => match s.deliver transactionId code with
      | .ok (_, s') => some s'
      | .error _ => some s
    | .pending receiver => match s.pendingRows receiver with
      | .ok (_, s') => some s'
      | .error _ => some s
    | .pass millis => some { s with clock := s.clock + millis }

/-- How the wait call of a transaction ended. -/
def Broker.outcome (s : Broker) (t : String) : Option Outcome :=
  match s.waits.get? t with
  | some ⟨_, .ended o⟩ => some o
  | _ => none

/-- The turns of the wait call of a transaction. -/
def BrokerAction.turnOf (t : String) : BrokerAction → Bool
  | .advance u => u == t
  | _ => false

end ApiManger.Mfa
