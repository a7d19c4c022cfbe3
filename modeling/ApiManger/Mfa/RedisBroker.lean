import ApiManger.Mfa.PushBroker

/-!
# The Redis broker

`RedisMfaPushBroker`: a wait call publishes its transaction as a hash and as a member
of its receiver's sorted set, polls the hash for a code, and removes both on its way
out. Redis carries out each command, pipeline and script at once, and drops a key at
the end of its time to live. A transaction stands for its key, and so does a receiver.
-/

namespace ApiManger.Mfa
open Python Transition

/-! ## The state -/

/-- The hash of a transaction, and when Redis drops it. -/
structure TransactionHash where
  transactionId : String
  receiverId : String
  correlation : String
  createdAt : ℕ
  expiresAt : ℕ
  code : Option String := none
  expireAt : ℕ

/-- The sorted set of a receiver: the `expires_at` of its transactions, and when Redis drops it. -/
structure PendingSet where
  members : Mapping ℕ
  expireAt : ℕ

/-- Where a call of `wait` stands: it has read the clock; its pipeline is through; it looks at its deadline;
it asks for the code; it sleeps; it is on its way out; it is over. -/
inductive PollPhase where
  | starting
  | published
  | checking (deadline : ℕ)
  | polling (deadline : ℕ)
  | asleep (deadline wake : ℕ)
  | leaving (outcome : Outcome)
  | ended (outcome : Outcome)

/-- A call of `wait`, which read the clock at `createdAt`. -/
structure PollCall where
  receiverId : String
  correlation : String
  timeout : ℕ
  createdAt : ℕ
  phase : PollPhase

def PollCall.expiresAt (call : PollCall) : ℕ := call.createdAt + call.timeout

/-- Where a call of `pending` stands: it has read the clock; it has dropped what expired; it has its ids; it
has answered. -/
inductive ListingPhase where
  | started (now : ℕ)
  | trimmed (now : ℕ)
  | selected (ids : List String)
  | answered (rows : List PendingTransaction)

/-- A call of `pending`. -/
structure ListingCall where
  receiverId : String
  phase : ListingPhase

/-- Redis with its clock, the calls of its clients, and the deliveries that were accepted. -/
structure RedisState where
  clock : ℕ
  transactions : Mapping TransactionHash := .empty
  pendingSets : Mapping PendingSet := .empty
  waits : Mapping PollCall := .empty
  listings : Mapping ListingCall := .empty
  accepted : List (String × String) := []

namespace RedisState

/-! ## Redis -/

variable (s : RedisState) (receiverId t : String)

/-- Time passes, and what reaches the end of its time to live is dropped. -/
def pass (millis : ℕ) : RedisState :=
  { s with
    clock := s.clock + millis
    transactions := s.transactions.filterItems fun e => decide (s.clock + millis < e.2.expireAt)
    pendingSets := s.pendingSets.filterItems fun e => decide (s.clock + millis < e.2.expireAt) }

/-- The members of a sorted set; a set that is not there has none. -/
def membersOf : Mapping ℕ :=
  ((s.pendingSets.get? receiverId).map PendingSet.members).getD .empty

/-- Keep the members of a sorted set that pass a test; a set without members is dropped. -/
def keepMembers (keep : String × ℕ → Bool) : RedisState :=
  match s.pendingSets.get? receiverId with
  | none => s
  | some set =>
    let members := set.members.filterItems keep
    { s with pendingSets :=
        if members.items.isEmpty then s.pendingSets.erase receiverId
        else s.pendingSets.set receiverId { set with members := members } }

/-! ## `wait` -/

/-- The wait call of a transaction goes on to a phase. -/
def moveTo (call : PollCall) (phase : PollPhase) : RedisState :=
  { s with waits := s.waits.set t { call with phase := phase } }

/-- `wait`, as far as the clock is read. -/
def wait (token receiver correlation : String) (timeoutSeconds : Int) : Option RedisState :=
  match normalizeReceiverId receiver with
  | .error _ => some s
  | .ok receiverId =>
    let t := "mfa-" ++ token
    -- a token is drawn for one call only
    if (s.waits.get? t).isSome then none
    else some { s with waits := s.waits.set t {
      receiverId := receiverId, correlation := normalizeCorrelation correlation
      timeout := waitMillis timeoutSeconds, createdAt := s.clock, phase := .starting } }

/-- The first pipeline of `wait`: the hash lives for five seconds more than the timeout, the set of the
receiver for ten. -/
def publish (call : PollCall) : RedisState :=
  { s with
    transactions := s.transactions.set t {
      transactionId := t, receiverId := call.receiverId, correlation := call.correlation
      createdAt := call.createdAt, expiresAt := call.expiresAt, expireAt := s.clock + (call.timeout + 5000) }
    pendingSets := s.pendingSets.set call.receiverId {
      members := (s.membersOf call.receiverId).set t call.expiresAt
      expireAt := s.clock + (call.timeout + 10000) } }

/-- The last pipeline of `wait`. -/
def withdraw (call : PollCall) : RedisState :=
  { s with transactions := s.transactions.erase t }.keepMembers call.receiverId fun e => e.1 != t

/-- `hget(transaction_key, "code")`, where it is not empty. -/
def payload : Option String :=
  ((s.transactions.get? t).bind TransactionHash.code).filter (· != "")

/-- The next step of a wait call. -/
def advance (cipher : Cipher) (s : RedisState) (t : String) : Option RedisState :=
  match s.waits.get? t with
  | none => none
  | some call => match call.phase with
    | .starting => some ((s.publish t call).moveTo t call .published)
    | .published => some (s.moveTo t call (.checking (s.clock + call.timeout)))
    | .checking deadline =>
      if s.clock < deadline then some (s.moveTo t call (.polling deadline))
      else some (s.moveTo t call (.leaving (.error receiverTimedOut)))
    | .polling deadline => match s.payload t with
      | some payload => some (s.moveTo t call (.leaving (decryptCode cipher t payload)))
      | none => some (s.moveTo t call (.asleep deadline (s.clock + 200)))
    | .asleep deadline wake => if wake ≤ s.clock then some (s.moveTo t call (.checking deadline)) else none
    | .leaving outcome => some ((s.withdraw t call).moveTo t call (.ended outcome))
    | .ended _ => none

/-! ## `deliver` -/

/-- The script of `deliver`. -/
def putCode (t code payload : String) : Bool × RedisState :=
  match s.transactions.get? t with
  | none => (false, s)
  | some hash => match hash.code with
    | some _ => (false, s)
    | none => (true, { s with
        transactions := s.transactions.set t { hash with code := some payload }
        accepted := s.accepted ++ [(t, code)] })

def deliver (cipher : Cipher) (s : RedisState) (transactionId : String) (code : Json) (nonce : ℕ) :
    Except MfaError (Bool × RedisState) :=
  let t := stripped transactionId
  if !startsWith t "mfa-" || decide (128 < t.length) then .ok (false, s)
  else do
    let code ← validateMfaCode code
    let payload ← encryptCode cipher nonce t code
    return s.putCode t code payload

/-! ## `pending` -/

/-- `zremrangebyscore(pending_key, "-inf", now)`. -/
def trim (now : ℕ) : RedisState :=
  s.keepMembers receiverId fun e => decide (now < e.2)

/-- The order of a sorted set: by score, then by member. -/
def ranksBefore (a b : String × ℕ) : Bool := decide (a.2 < b.2) || (a.2 == b.2 && decide (a.1 ≤ b.1))

/-- `zrangebyscore(pending_key, now, "+inf", start=0, num=MAX_PENDING_TRANSACTIONS)`. -/
def selectIds (now : ℕ) : List String :=
  ((((s.membersOf receiverId).items.filter fun e => decide (now ≤ e.2)).mergeSort ranksBefore).take
    maxPendingTransactions).map Prod.fst

/-- The rows of the records that are there and have no code. -/
def rowsOf (ids : List String) : List PendingTransaction :=
  ids.filterMap fun t => match s.transactions.get? t with
    | none => none
    | some hash =>
      if hash.code.any (· != "") then none
      else some {
        transactionId := t, receiverId := receiverId, correlation := String.ofList (hash.correlation.toList.take 256)
        createdAt := hash.createdAt, expiresAt := hash.expiresAt }

/-- `pending`, as far as the clock is read. -/
def list (caller receiver : String) : Option RedisState :=
  if (s.listings.get? caller).isSome then none
  else match Broker.selectedReceiver receiver with
    | .error _ => some s
    | .ok receiverId => some { s with listings := s.listings.set caller {
        receiverId := receiverId, phase := if receiverId == "" then .answered [] else .started s.clock } }

/-- The next command of a call of `pending`. -/
def advanceListing (caller : String) : Option RedisState :=
  match s.listings.get? caller with
  | none => none
  | some call =>
    let goOn (s : RedisState) (phase : ListingPhase) : RedisState :=
      { s with listings := s.listings.set caller { call with phase := phase } }
    match call.phase with
    | .started now => some (goOn (s.trim call.receiverId now) (.trimmed now))
    | .trimmed now => some (goOn s (.selected (s.selectIds call.receiverId now)))
    | .selected ids => some (goOn s (.answered (s.rowsOf call.receiverId ids)))
    | .answered _ => none

/-- What `pending` answers when nothing comes between its commands. -/
def pendingRows : List PendingTransaction :=
  let trimmed := s.trim receiverId s.clock
  trimmed.rowsOf receiverId (trimmed.selectIds receiverId s.clock)

end RedisState

/-- What happens to Redis and its clients. -/
inductive RedisAction where
  | wait (token receiver correlation : String) (timeoutSeconds : Int)
  | advance (t : String)
  | deliver (transactionId : String) (code : Json) (nonce : ℕ)
  | list (caller receiver : String)
  | advanceListing (caller : String)
  | pass (millis : ℕ)

/-- Redis and its clients. A call that raises before its first command leaves everything as it is. -/
def redisSystem (cipher : Cipher) : System RedisState RedisAction where
  step s
    | .wait token receiver correlation timeoutSeconds => s.wait token receiver correlation timeoutSeconds
    | .advance t => s.advance cipher t
    | .deliver transactionId code nonce => match s.deliver cipher transactionId code nonce with
      | .ok (_, s') => some s'
      | .error _ => some s
    | .list caller receiver => s.list caller receiver
    | .advanceListing caller => s.advanceListing caller
    | .pass millis => some (s.pass millis)

/-- How the wait call of a transaction ended. -/
def RedisState.outcome (s : RedisState) (t : String) : Option Outcome :=
  match s.waits.get? t with
  | some ⟨_, _, _, _, .ended o⟩ => some o
  | _ => none

/-- The turns of the wait call of a transaction. -/
def RedisAction.turnOf (t : String) : RedisAction → Bool
  | .advance u => u == t
  | _ => false

end ApiManger.Mfa
