import ApiManger.Parameters.Replay
import ApiManger.Python.Canonical
import ApiManger.Python.Mapping

/-!
# The rows of a validation

`replay_parameter_validation` answers with one row per relation. The relations without a value
have their rows from the requests to the source; the others have theirs from the last answer of
the consumer and, after a deletion, from the second reading of the source.
-/

namespace ApiManger.Parameters
open Python

/-! ## Statuses -/

inductive Role
  | source | consumer
  deriving DecidableEq

/-- How `_request_failure_status` tells failed requests apart. -/
inductive Failure
  | requestRejected | authRejected | rateLimited | failed
  deriving DecidableEq

inductive ValidationStatus
  | snapshotFailed
  | requestFailed (role : Role) (failure : Failure)
  | hostScopeApprovalRequired
  | valueNotFound
  | requestBudgetExhausted
  | partiallyVerified
  | mutationEffectAfterError
  | mutationVerified
  | mutationAccepted
  | verified
  deriving DecidableEq

/-- The statuses that count as successes. -/
def ValidationStatus.success : ValidationStatus → Bool
  | .verified | .mutationVerified | .mutationAccepted | .mutationEffectAfterError => true
  | _ => false

inductive EffectStatus
  | notChecked | deleteObserved | partialDeleteObserved | valueStillPresent | postReadReachable | postReadFailed
  deriving DecidableEq

def requestFailureStatus (role : Role) (r : Reply) (remainingHosts : Bool) (budgetExhausted mutation : Bool) :
    ValidationStatus :=
  if explicitRequestRejection r then .requestFailed role .requestRejected
  else if r.statusCode = some 401 ∨ r.statusCode = some 403 then .requestFailed role .authRejected
  else if r.statusCode = some 429 then .requestFailed role .rateLimited
  else if (if mutation then mutationHostRetryable r else readHostRetryable r) && remainingHosts && budgetExhausted then
    .hostScopeApprovalRequired
  else .requestFailed role .failed

/-! ## What is validated -/

/-- A plan with the relation it is about where it lists none, whether its snapshots were found, and
how many hosts each side has. -/
structure ReplayPlan where
  plan : ValidationPlan
  own : RelationMapping
  found : Bool
  availableSourceHostCount : ℕ
  availableConsumerHostCount : ℕ

variable (sha256 : Json → String) (p : ReplayPlan) (source : Progress)

def ReplayPlan.mappings : List RelationMapping :=
  if p.plan.relations.isEmpty then [p.own] else p.plan.relations

def ReplayPlan.effective : ValidationPlan := { p.plan with relations := p.mappings }

/-- A value record. -/
structure Injected where
  mapping : RelationMapping
  value : Json
  manual : Bool

/-- The values an operator gave, in the order they are recorded. -/
def manualItems (p : ValidationPlan) : List (String × Injected) :=
  p.relations.filterMap fun m => m.manualValue.map fun value => (m.relationId, ⟨m, value, true⟩)

/-- The values found in the source's answer, in the order they are recorded. -/
def extractedItems (p : ValidationPlan) (document : Json) : List (String × Injected) :=
  (p.relations.filter fun m => m.manualValue.isNone).filterMap fun m =>
    (extractedValue m document).map fun value => (m.relationId, ⟨m, value, false⟩)

/-- The evidence of a role none of whose requests was sent. -/
def noReply : Reply := { ok := false, statusCode := none }

def sourceEvidence : Reply := source.last.getD noReply

/-- All values in the order they are recorded. -/
def recordItems (p : ValidationPlan) (source : Progress) : List (String × Injected) :=
  manualItems p ++ if (sourceEvidence source).ok then extractedItems p (sourceEvidence source).document else []

/-- `value_records` -/
def injected (p : ValidationPlan) (source : Progress) : Mapping Injected := Mapping.ofItems (recordItems p source)

/-! ## Rows -/

/-- A row of `relation_results`. -/
structure RelationRow where
  relationId : String
  canonicalName : String
  status : ValidationStatus
  manual : Bool
  effect : Option EffectStatus

/-- The row of a relation without a value. -/
def missingRow (status : ValidationStatus) (m : RelationMapping) : String × RelationRow :=
  (m.relationId, ⟨m.relationId, m.canonicalName, status, false, none⟩)

def sourceStatus : ValidationStatus :=
  let remaining := max p.effective.sourceOptions.length p.availableSourceHostCount - source.sent
  requestFailureStatus .source (sourceEvidence source) (decide (0 < remaining))
    (decide (max 1 (p.effective.budget - 1) ≤ source.sent)) false

/-- The rows after the requests to the source, in the order they are recorded. -/
def sourceRows : List (String × RelationRow) :=
  if !p.effective.needsSource then []
  else if (sourceEvidence source).ok then
    (p.mappings.filter fun m =>
      m.manualValue.isNone && (extractedValue m (sourceEvidence source).document).isNone).map
        (missingRow .valueNotFound)
  else
    (p.mappings.filter fun m => !((manualItems p.effective).map Prod.fst).contains m.relationId).map
      (missingRow (sourceStatus p source))

/-- What a call returns. -/
structure ReplayResult where
  ok : Bool
  status : ValidationStatus
  requestCount : ℕ
  effectStatus : EffectStatus
  rows : Option (List RelationRow)

/-- `list(relation_results.values())` -/
def rowList (items : List (String × RelationRow)) : List RelationRow := (Mapping.ofItems items).items.map Prod.snd

/-- The result where there is no value for the consumer. -/
def withoutValues : ReplayResult :=
  let early := sourceRows p source
  let failed := p.effective.needsSource && !(sourceEvidence source).ok
  { ok := false
    status := if failed then sourceStatus p source else .valueNotFound
    requestCount := source.sent
    effectStatus := .notChecked
    rows := some (rowList (if early.isEmpty then p.mappings.map (missingRow .valueNotFound) else early)) }

/-- The row of a value that was not sent. -/
def unsentRow (e : String × Injected) : String × RelationRow :=
  (e.1, ⟨e.1, e.2.mapping.canonicalName, .requestBudgetExhausted, e.2.manual, none⟩)

/-- The result where no request was left for the consumer. -/
def withoutConsumer : ReplayResult where
  ok := false
  status := .requestBudgetExhausted
  requestCount := source.sent
  effectStatus := .notChecked
  rows := some (rowList (sourceRows p source ++ (injected p.effective source).items.map unsentRow))

/-! ## The effect of a mutation -/

/-- `_stable_hash`, over a digest of texts: the keys of a document are in order. -/
def stableHash (value : Json) : String := sha256 value.canonical

/-- The values of a relation in the second answer of the source. -/
def valuesAfter (m : RelationMapping) (document : Json) : List Json :=
  let located := extractValuesAtLocator document m.sourceLocator
  if located.isEmpty then fallbackValues document m.canonicalName else located

/-- The digest of the value is among those of the second answer. -/
def shownAfter (record : Injected) (document : Json) : Bool :=
  ((valuesAfter record.mapping document).map (stableHash sha256)).contains (stableHash sha256 record.value)

def deletes : Bool := upper p.plan.consumerMethod == "DELETE"

/-- `relation_effect`, after the second answer of the source where it was read. -/
def relationEffect (after : Option Reply) (record : Injected) : EffectStatus :=
  match after with
  | none => .notChecked
  | some r =>
    if deletes p && r.ok then if shownAfter sha256 record r.document then .valueStillPresent else .deleteObserved
    else if r.ok then .postReadReachable
    else .postReadFailed

def effectStatus (after : Option Reply) (records : List Injected) :
    EffectStatus :=
  match after with
  | none => .notChecked
  | some r =>
    if deletes p && r.ok then
      let observed := records.countP fun record => relationEffect sha256 p after record == .deleteObserved
      if observed = records.length then .deleteObserved
      else if observed ≠ 0 then .partialDeleteObserved
      else .valueStillPresent
    else if r.ok then .postReadReachable
    else .postReadFailed

/-- The parts of the last answer of the consumer. -/
structure ConsumerEnd where
  reply : Reply
  failureStatus : ValidationStatus
  hostScopeApproval : Bool

/-- What the code reads of the consumer's requests. -/
def consumerEnd (source consumer : Progress) (reply : Reply) : ConsumerEnd :=
  let plan := p.effective
  let remaining := max plan.consumerOptions.length p.availableConsumerHostCount - (consumer.sent - source.sent)
  let exhausted := decide (plan.budget ≤ consumer.sent)
  { reply
    failureStatus := requestFailureStatus .consumer reply (decide (0 < remaining)) exhausted plan.mutates
    hostScopeApproval := !reply.ok && decide (0 < remaining) && exhausted &&
      (if plan.mutates then mutationHostRetryable reply else readHostRetryable reply) }

def relationStatus (mutates : Bool) (c : ConsumerEnd) (effect : EffectStatus) : ValidationStatus :=
  if !c.reply.ok && effect == .deleteObserved then .mutationEffectAfterError
  else if c.hostScopeApproval then .hostScopeApprovalRequired
  else if !c.reply.ok then c.failureStatus
  else if mutates && effect == .deleteObserved then .mutationVerified
  else if mutates then .mutationAccepted
  else .verified

/-- `status` -/
def overallStatus (mutates : Bool) (c : ConsumerEnd) (effect : EffectStatus) (successes defects unresolved : ℕ) :
    ValidationStatus :=
  if successes ≠ 0 ∧ unresolved ≠ 0 then .partiallyVerified
  else if defects ≠ 0 then .mutationEffectAfterError
  else if c.hostScopeApproval then .hostScopeApprovalRequired
  else if !c.reply.ok then c.failureStatus
  else if mutates && effect == .deleteObserved then .mutationVerified
  else if mutates then .mutationAccepted
  else .verified

def sentRow (c : ConsumerEnd) (after : Option Reply) (e : String × Injected) :
    String × RelationRow :=
  let effect := relationEffect sha256 p after e.2
  (e.1, ⟨e.1, e.2.mapping.canonicalName, relationStatus p.effective.mutates c effect, e.2.manual, some effect⟩)

/-- The result after the consumer answered. -/
def afterConsumer (source consumer : Progress) (reply : Reply)
    (after : Option Reply) : ReplayResult :=
  let c := consumerEnd p source consumer reply
  let records := (injected p.effective source).items
  let late := records.map (sentRow sha256 p c after)
  let rows := rowList (sourceRows p source ++ late)
  let successes := late.countP fun e => e.2.status.success
  let defects := late.countP fun e => e.2.status == .mutationEffectAfterError
  let effect := effectStatus sha256 p after (records.map Prod.snd)
  { ok := reply.ok || defects != 0
    status := overallStatus p.effective.mutates c effect successes defects (rows.length - successes)
    requestCount := consumer.sent + if after.isSome then 1 else 0
    effectStatus := effect
    rows := some rows }

/-- `replay_parameter_validation`; nothing is returned where a request raises. -/
def replayParameterValidation (answer : ℕ → Attempt) : Option ReplayResult :=
  if !p.found then some ⟨false, .snapshotFailed, 0, .notChecked, none⟩
  else
    let source := sourcePhase p.effective answer
    if source.raised then none
    else if (injected p.effective source).items.isEmpty then some (withoutValues p source)
    else
      let consumer := consumerPhase p.effective answer source.sent
      if consumer.raised then none
      else match consumer.last with
        | none => some (withoutConsumer p source)
        | some reply =>
          if shouldReadAfter p.effective consumer then match answer consumer.sent with
            | .error _ => none
            | .ok after => some (afterConsumer sha256 p source consumer reply (some after))
          else some (afterConsumer sha256 p source consumer reply none)

end ApiManger.Parameters
