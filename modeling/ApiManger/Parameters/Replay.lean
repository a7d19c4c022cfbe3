import ApiManger.Parameters.Environment

/-!
# The requests of a validation

`replay_parameter_validation` asks the candidate hosts of the source for values,
sends them to the candidate hosts of the consumer, and reads the source again after a
mutation. A `ValidationPlan` is what it reads of its plan. What comes of an attempt is
an answer of the outside: preparing the request may raise (its account context, its
host, the place of a value), and a request that was sent has a reply.
-/

namespace ApiManger.Parameters
open Python

/-! ## Plans -/

/-- One token of a locator. -/
inductive LocatorToken where
  | property (value : String) (dynamic : Bool)
  | array (index : Int) (wildcard : Bool)

/-- A candidate host. -/
structure HostOption where
  host : String
  baseUrl : String

/-- One relation of a plan, with the value an operator gave for it. -/
structure RelationMapping where
  relationId : String
  canonicalName : String
  sourceLocator : List LocatorToken
  manualValue : Option Json

/-- The plan of a pair of endpoints: `consumerMethod` is the one of the consumer's snapshot, and the hosts of
the two snapshots stand in where the plan lists none. -/
structure ValidationPlan where
  relations : List RelationMapping
  sourceHosts : List HostOption
  consumerHosts : List HostOption
  sourceDefault : HostOption
  consumerDefault : HostOption
  consumerMethod : String
  mutation : Bool
  requestBudget : Int
  environmentRequestLimit : Int
  environmentApprovedLimit : Int
  approvedLargeRun : Bool

namespace ValidationPlan

variable (p : ValidationPlan)

def maximumBudget : Int :=
  max 1 (min (if p.approvedLargeRun then p.environmentApprovedLimit else p.environmentRequestLimit)
    maxApprovedRequests)

/-- `request_budget`. -/
def budget : ℕ :=
  (max 1 (min (if p.requestBudget = 0 then maxAutomaticRequests else p.requestBudget) p.maximumBudget)).toNat

/-- Whether the consumer changes something. -/
def mutates : Bool := p.mutation || mutationMethods.contains (upper p.consumerMethod)

def sourceOptions : List HostOption :=
  if p.sourceHosts.isEmpty then [p.sourceDefault] else p.sourceHosts

def consumerOptions : List HostOption :=
  if p.consumerHosts.isEmpty then [p.consumerDefault] else p.consumerHosts

def needsSource : Bool := p.relations.any fun m => m.manualValue.isNone

end ValidationPlan

/-! ## Values -/

/-- The limit of the two extractions. -/
def valueLimit : ℕ := 20

/-- The walk of `extract_values_at_locator`, after the results so far. -/
def walkLocator : List LocatorToken → Json → List Json → List Json
  | tokens, node, results =>
    if valueLimit ≤ results.length then results
    else match tokens with
      | [] => results ++ [node]
      | .property value dynamic :: rest => match node with
        | .obj fields =>
          if dynamic then fields.foldl (fun results field =>
            if valueLimit ≤ results.length then results else walkLocator rest field.2 results) results
          else match Dict.get? fields value with
            | some child => walkLocator rest child results
            | none => results
        | _ => results
      | .array index wildcard :: rest => match node with
        | .arr items =>
          if wildcard then items.foldl (fun results child =>
            if valueLimit ≤ results.length then results else walkLocator rest child results) results
          else if 0 ≤ index then match items[index.toNat]? with
            | some child => walkLocator rest child results
            | none => results
          else results
        | _ => results

def extractValuesAtLocator (value : Json) (tokens : List LocatorToken) : List Json :=
  (walkLocator tokens value []).take valueLimit

/-- A name as `_fallback_values` compares it. -/
def comparedName (name : String) : String := replaceChar (lower name) '-' '_'

mutual

/-- The walk of `_fallback_values`, after the results so far. -/
def walkByName (target : String) : Json → List Json → List Json
  | .obj fields, results => if valueLimit ≤ results.length then results else walkFields target fields results
  | .arr items, results => if valueLimit ≤ results.length then results else walkItems target items results
  | _, results => results

def walkFields (target : String) : List (String × Json) → List Json → List Json
  | [], results => results
  | (key, child) :: rest, results =>
    let results := if comparedName key == target then results ++ [child] else results
    walkFields target rest (walkByName target child results)

def walkItems (target : String) : List Json → List Json → List Json
  | [], results => results
  | child :: rest, results => walkItems target rest (walkByName target child results)

end

def fallbackValues (value : Json) (canonicalName : String) : List Json :=
  (walkByName (comparedName canonicalName) value []).take valueLimit

/-- A value that can be injected. -/
structure ValueRecord where
  relationId : String
  value : Json

variable (p : ValidationPlan)

/-- The values the operator gave. -/
def manualRecords : List ValueRecord :=
  p.relations.filterMap fun m => m.manualValue.map fun value => ⟨m.relationId, value⟩

/-- The value of one relation in the source's answer. -/
def extractedValue (m : RelationMapping) (document : Json) : Option Json :=
  let located := extractValuesAtLocator document m.sourceLocator
  let values := if located.isEmpty then fallbackValues document m.canonicalName else located
  if values.isEmpty then none
  else if endsWith m.canonicalName "_ids" then some (.arr values) else values.head?

/-- The values found in the source's answer. -/
def extractedRecords (document : Json) : List ValueRecord :=
  (p.relations.filter fun m => m.manualValue.isNone).filterMap fun m =>
    (extractedValue m document).map fun value => ⟨m.relationId, value⟩

/-! ## Replies -/

/-- What a reply says: its evidence, whether `_safe_error_summary` finds a rejection by the business in it,
and its document. -/
structure Reply where
  ok : Bool
  statusCode : Option ℕ
  errorType : String := ""
  explicitBusinessRejection : Bool := false
  document : Json := .null

/-- What comes of an attempt. -/
abbrev Attempt := Except PyError Reply

def preResponseHostErrors : List String :=
  ["ConnectionError", "ConnectTimeout", "ProxyError", "SSLError", "InvalidURL", "InvalidSchema", "MissingSchema"]

def explicitRequestRejection (r : Reply) : Bool :=
  match r.statusCode with
  | some code => [409, 422].contains code || (code == 400 && r.explicitBusinessRejection)
  | none => false

def mutationHostRetryable (r : Reply) : Bool :=
  r.statusCode.any (fun code => [401, 403, 404, 405, 421].contains code) || preResponseHostErrors.contains r.errorType

def readHostRetryable (r : Reply) : Bool :=
  if r.statusCode.any fun code => [404, 405, 421].contains code then true
  else if r.statusCode = some 400 then !explicitRequestRejection r
  else preResponseHostErrors.contains r.errorType

/-! ## The loops -/

/-- How far the requests have come: how many were sent, the last reply of the role, whether an attempt
raised. -/
structure Progress where
  sent : ℕ
  last : Option Reply := none
  raised : Bool := false

/-- Ask one host after the other, while the count is below the limit, until one answers well or in a way that
the next host would not change. -/
def tryHosts (answer : ℕ → Attempt) (goesOn : Reply → Bool) (limit : ℕ) : List HostOption → Progress → Progress
  | [], p => p
  | _ :: rest, p =>
    if limit ≤ p.sent then p
    else match answer p.sent with
      | .error _ => { p with raised := true }
      | .ok r =>
        let next : Progress := { sent := p.sent + 1, last := some r }
        if r.ok then next else if goesOn r then tryHosts answer goesOn limit rest next else next

/-- The requests to the source; one request is kept for the consumer. -/
def sourcePhase (answer : ℕ → Attempt) : Progress :=
  if p.needsSource then tryHosts answer readHostRetryable (max 1 (p.budget - 1)) p.sourceOptions ⟨0, none, false⟩
  else ⟨0, none, false⟩

/-- The values for the consumer, after the requests to the source. -/
def valueRecords (source : Progress) : List ValueRecord :=
  manualRecords p ++ match source.last with
    | some r => if r.ok then extractedRecords p r.document else []
    | none => []

/-- The requests to the consumer, after so many others. -/
def consumerPhase (answer : ℕ → Attempt) (sent : ℕ) : Progress :=
  tryHosts answer (if p.mutates then mutationHostRetryable else readHostRetryable) p.budget p.consumerOptions
    ⟨sent, none, false⟩

def shouldReadAfter (consumer : Progress) : Bool :=
  p.mutates && decide (consumer.sent < p.budget) && consumer.last.any fun r => r.ok || !mutationHostRetryable r

/-- How many business requests `replay_parameter_validation` sends. -/
def businessRequests (answer : ℕ → Attempt) : ℕ :=
  let source := sourcePhase p answer
  if source.raised || (valueRecords p source).isEmpty then source.sent
  else
    let consumer := consumerPhase p answer source.sent
    if consumer.raised || !shouldReadAfter p consumer then consumer.sent
    else match answer consumer.sent with
      | .error _ => consumer.sent
      | .ok _ => consumer.sent + 1

end ApiManger.Parameters
