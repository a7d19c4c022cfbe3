import ApiManger.Python.Text
import ApiManger.Python.Url

/-!
# Environments and their request limits

`environment_execution_policy`: how many requests a validation run of an environment
may send without approval. Test and pre-production environments configure it;
production and unknown ones keep a small limit.
-/

namespace ApiManger.Parameters
open Python

def readMethods : List String := ["GET", "HEAD", "OPTIONS"]
def mutationMethods : List String := ["POST", "PUT", "PATCH", "DELETE"]
def safeEnvironmentTypes : List String := ["test", "preprod"]
def maxAutomaticRequests : Int := 3
def productionRequestLimit : Int := 3
def maxConfigurableRequests : Int := 1000
def maxApprovedRequests : Int := maxConfigurableRequests

/-- `ProjectEnvironment`; a host is a dictionary or a text. -/
structure ProjectEnvironment where
  envId : String
  name : String := ""
  environmentType : String := "unknown"
  allowMutation : Bool := false
  autoRequestLimit : Option Int := some 3
  defaultHost : String := ""
  hosts : List Json := []
  metadata : Dict := []

def normalizeHost (value : String) : String :=
  let text := stripped value
  if text == "" then ""
  else
    let url := if containsText text "://" then text else "//" ++ text
    let parts := urlsplit url.toList
    let rest := String.ofList (if parts.netloc.isEmpty then parts.path else parts.netloc)
    lower (stripped ((hostname url).getD rest))

/-- The host or the base url of one entry. -/
def hostEntry : Json → String
  | .obj fields => if Dict.truthy fields "host" then (Dict.get fields "host").strOrEmpty
    else (Dict.get fields "base_url").strOrEmpty
  | x => x.pyStr

def environmentHostNames (e : ProjectEnvironment) : List String :=
  (e.defaultHost :: e.hosts.map hostEntry).foldl (fun result value =>
    let host := normalizeHost value
    if host != "" && !result.contains host then result ++ [host] else result) []

/-- The other names of the environment types. -/
def environmentAliases : List (String × String) := [
  ("testing", "test"), ("qa", "test"), ("dev", "test"), ("development", "test"), ("staging", "preprod"),
  ("stage", "preprod"), ("uat", "preprod"), ("pre-production", "preprod"), ("preproduction", "preprod"),
  ("beta", "preprod"), ("prod", "production"), ("formal", "production"), ("production", "production")]

def normalizeEnvironmentType (value : String) : String :=
  let normalized := replaceChar (lower (stripped value)) '_' '-'
  match environmentAliases.lookup normalized with
  | some type => type
  | none => if ["test", "preprod", "production"].contains normalized then normalized else "unknown"

def inferEnvironmentType (environment : Option ProjectEnvironment) : String :=
  match environment with
  | none => "unknown"
  | some e =>
    let explicit := normalizeEnvironmentType
      (if e.environmentType != "" then e.environmentType else (Dict.get e.metadata "environment_type").strOrEmpty)
    if explicit != "unknown" then explicit
    else
      let joined := " ".intercalate
        (([e.envId, e.name, e.defaultHost] ++ environmentHostNames e).map fun item => lower (stripped item))
      let mentions (tokens : List String) : Bool := tokens.any (containsText joined ·)
      if mentions ["preprod", "staging", "stage", "uat", "beta"] then "preprod"
      else if mentions ["test", "testing", "qa.", "dev."] then "test"
      else if mentions ["production", "formal", "prod."] then "production"
      else "unknown"

/-- What `environment_execution_policy` answers. -/
structure EnvironmentPolicy where
  environmentType : String
  allowMutation : Bool
  autoRequestLimit : Int
  approvedRequestLimit : Int

/-- The configured limit, before it is clamped. -/
def configuredLimit (environment : Option ProjectEnvironment) : Json :=
  match environment with
  | none => .int 3
  | some e => match e.autoRequestLimit with
    | some 0 | none => (Dict.get? e.metadata "auto_request_limit").getD (.int 3)
    | some limit => .int limit

/-- The most an environment of the type may configure. -/
def requestMaximum (environmentType : String) : Int :=
  if safeEnvironmentTypes.contains environmentType then maxConfigurableRequests else productionRequestLimit

def environmentExecutionPolicy (environment : Option ProjectEnvironment) : EnvironmentPolicy :=
  let type := inferEnvironmentType environment
  { environmentType := type
    allowMutation := environment.any fun e => safeEnvironmentTypes.contains type &&
      (e.allowMutation || Dict.truthy e.metadata "allow_mutation")
    autoRequestLimit := match (configuredLimit environment).toInt with
      | .ok limit => max 1 (min limit (requestMaximum type))
      | .error _ => maxAutomaticRequests
    approvedRequestLimit := requestMaximum type }

def relationRequestEstimate (consumerMethod : String) : Int :=
  if mutationMethods.contains (upper (stripped consumerMethod)) then 3 else 2

theorem requestMaximum_bounds (type : String) : 3 ≤ requestMaximum type ∧ requestMaximum type ≤ 1000 := by
  unfold requestMaximum
  split <;> decide

/-- A limit is positive, and no limit is beyond what replay accepts. -/
theorem autoRequestLimit_bounds (environment : Option ProjectEnvironment) :
    1 ≤ (environmentExecutionPolicy environment).autoRequestLimit ∧
      (environmentExecutionPolicy environment).autoRequestLimit ≤ maxApprovedRequests := by
  have bounds := requestMaximum_bounds (inferEnvironmentType environment)
  unfold environmentExecutionPolicy
  dsimp only [maxApprovedRequests, maxConfigurableRequests]
  split
  · omega
  · decide

end ApiManger.Parameters
