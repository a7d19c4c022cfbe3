import ApiManger.Chain.Definition
import ApiManger.Recipe.Language

/-!
# Raw chain definitions

`normalize_chain_definition` reads a definition from a JSON object, field by field. What it
returns has every field as it was read; `base` forgets the texts that no check looks at.
-/

namespace ApiManger.Chain
open Python Recipe

def chainSchemaVersion : String := "interface-chain.v1"

/-- `_text` -/
def pyText : Json → String
  | .null => ""
  | value => stripped value.pyStr

/-- `_text(raw.get(key))` -/
def textOf (raw : Dict) (key : String) : String := pyText (Dict.get raw key)

/-- The items of `value or []`. -/
def itemsOr (value : Json) : Except ChainError (List Json) :=
  if value.truthy then (iterate value).mapError .raised else .ok []

/-- `item or {}`, as a mapping. -/
def fieldsOr (value : Json) : Except ChainError Dict := (mappingOr value).mapError .raised

/-- `[_text(item) for item in value or [] if _text(item)]` -/
def textsOr (value : Json) : Except ChainError (List String) := do
  return ((← itemsOr value).map pyText).filter (· != "")

/-! ## Documents -/

structure ParameterDoc extends ChainParameter where
  description : String

structure StepDoc where
  stepId : String
  responseRef : String
  pathid : Int
  method : String
  pathTemplate : String
  accountProfile : String
  parameters : List ParameterDoc
  description : String
  dependsOn : List String

structure ProfileDoc extends ChainAccountProfile where
  description : String

structure ChainDoc where
  name : String
  title : String
  projectId : String
  envId : String
  sourceRef : String
  sourceKind : String
  sourceResponseRefs : List String
  accountProfiles : List ProfileDoc
  steps : List StepDoc
  description : String

/-- The step that the checks see. -/
def StepDoc.base (step : StepDoc) : ChainStep where
  stepId := step.stepId
  responseRef := step.responseRef
  pathid := step.pathid
  method := step.method
  pathTemplate := step.pathTemplate
  accountProfile := step.accountProfile
  parameters := step.parameters.map (·.toChainParameter)
  dependsOn := step.dependsOn

def ChainDoc.base (d : ChainDoc) : ChainDefinition where
  name := d.name
  title := d.title
  projectId := d.projectId
  envId := d.envId
  accountProfiles := d.accountProfiles.map (·.toChainAccountProfile)
  steps := d.steps.map (·.base)

/-! ## Writing -/

def Position.text : Position → String
  | .path => "path"
  | .query => "query"
  | .header => "header"
  | .body => "body"
  | .cookie => "cookie"

/-- An entry that is left out where the text is empty. -/
def optionalText (key text : String) : Dict := if text == "" then [] else [(key, .str text)]

/-- What `_normalize_parameter` returns. -/
def ParameterDoc.toDict (p : ParameterDoc) : Dict :=
  [("name", .str p.name), ("position", .str p.position.text), ("type", .str p.type), ("required", .bool p.required),
    ("source", .str (match p.source with
      | .constant _ => "constant"
      | .upstreamRef _ _ => "upstream_ref"))] ++
  optionalText "description" p.description ++
  match p.source with
  | .constant value => [("value", value)]
  | .upstreamRef ref requiredNonEmpty =>
    [("ref", .str ref), ("required_non_empty", .bool requiredNonEmpty)] ++
      optionalText "source_response_ref" p.sourceResponseRef

/-- What `_normalize_step` returns, after `normalize_chain_definition` has set `depends_on`. -/
def StepDoc.toDict (s : StepDoc) : Dict :=
  [("step_id", .str s.stepId), ("response_ref", .str s.responseRef), ("pathid", .int s.pathid), ("method", .str s.method),
    ("path_template", .str s.pathTemplate), ("placeholder_style", .str (detectPlaceholderStyle s.pathTemplate)),
    ("account_profile", .str s.accountProfile), ("parameters", .arr (s.parameters.map fun p => .obj p.toDict))] ++
  optionalText "description" s.description ++ [("depends_on", .arr (s.dependsOn.map .str))]

def ProfileDoc.toDict (p : ProfileDoc) : Dict :=
  [("alias", .str p.profileAlias), ("auth_mode", .str p.authMode), ("profile_ref", .str p.profileRef),
    ("account_ref", .str p.accountRef), ("provider_ref", .str p.providerRef), ("context_ref", .str p.contextRef),
    ("role", .str p.role)] ++ optionalText "description" p.description

/-- What `normalize_chain_definition` returns. -/
def ChainDoc.toDict (d : ChainDoc) : Dict :=
  [("schema_version", .str chainSchemaVersion), ("name", .str d.name), ("title", .str d.title),
    ("project_id", .str d.projectId), ("env_id", .str d.envId), ("source_ref", .str d.sourceRef),
    ("source_kind", .str d.sourceKind), ("source_response_refs", .arr (d.sourceResponseRefs.map .str)),
    ("account_profiles", .arr (d.accountProfiles.map fun p => .obj p.toDict)),
    ("steps", .arr (d.steps.map fun s => .obj s.toDict))] ++
  optionalText "description" d.description

/-! ## Reading -/

/-- A text of `PARAMETER_POSITIONS`. -/
def positionOf (text : String) : Option Position :=
  [Position.path, .query, .header, .body, .cookie].find? (·.text == text)

/-- `_normalize_parameter` -/
def readParameter (stepId : String) (raw : Dict) : Except ChainError ParameterDoc :=
  let name := textOf raw "name"
  if name == "" then .error (.definition (stepId ++ ": parameter name is required"))
  else
    let position := lower (textOf raw "position")
    match positionOf position with
    | none => .error (.definition (stepId ++ ":" ++ name ++ ": unsupported parameter position '" ++ position ++ "'"))
    | some place =>
      let source := lower (textOf raw "source")
      if source != "constant" && source != "upstream_ref" then
        .error (.definition (stepId ++ ":" ++ name ++ ": unsupported parameter source '" ++ source ++ "'"))
      else if isSensitiveName name then .error (.definition
        (stepId ++ ":" ++ name ++ ": credentials must come from an account profile, never a parameter"))
      else
        let type := if textOf raw "type" == "" then "string" else textOf raw "type"
        let required := (Dict.get raw "required").truthy
        let description := textOf raw "description"
        if source == "upstream_ref" then
          let ref := textOf raw "ref"
          if ref == "" then .error (.definition (stepId ++ ":" ++ name ++ ": upstream_ref requires ref"))
          else do
            let _ ← parseUpstreamRef ref
            let requiredNonEmpty := match Dict.get? raw "required_non_empty" with
              | some value => value.truthy
              | none => place == .path
            return ⟨⟨name, place, type, required, .upstreamRef ref requiredNonEmpty, textOf raw "source_response_ref"⟩,
              description⟩
        else match Dict.get? raw "value" with
          | none => .error (.definition (stepId ++ ":" ++ name ++ ": constant parameter requires an explicit value"))
          | some value => .ok ⟨⟨name, place, type, required, .constant value, ""⟩, description⟩

/-- `_as_int` -/
def asIntField (value : Json) (field : String) : Except ChainError Int :=
  match value.toInt with
  | .ok n => .ok n
  | .error _ => .error (.definition (field ++ " must be an integer"))

/-- `_normalize_step` -/
def readStep (index : ℕ) (raw : Dict) : Except ChainError StepDoc :=
  let stepId := textOf raw "step_id"
  let pathTemplate := textOf raw "path_template"
  let method := upper (textOf raw "method")
  let responseRef := textOf raw "response_ref"
  if stepId == "" then .error (.definition ("step " ++ toString index ++ ": step_id is required"))
  else if pathTemplate == "" then .error (.definition (stepId ++ ": path_template is required"))
  else if !readMethods.contains method then .error (.definition
    (stepId ++ ": read chains only support GET/HEAD/OPTIONS, got '" ++ (if method == "" then "<empty>" else method) ++ "'"))
  else if responseRef == "" then .error (.definition (stepId ++ ": response_ref is required"))
  else do
    let pathid ← asIntField (Dict.get raw "pathid") (stepId ++ ":pathid")
    let items ← itemsOr (Dict.get raw "parameters")
    let parameters ← items.mapM fun item => do readParameter stepId (← fieldsOr item)
    let dependsOn ← textsOr (Dict.get raw "depends_on")
    return {
      stepId := stepId, responseRef := responseRef, pathid := pathid, method := method, pathTemplate := pathTemplate
      accountProfile := textOf raw "account_profile", parameters := parameters, description := textOf raw "description"
      dependsOn := dependsOn }

/-- `_normalize_account_profiles`, after the aliases seen so far. -/
def readProfiles : List String → List Json → Except ChainError (List ProfileDoc)
  | _, [] => .ok []
  | seen, item :: rest => do
    let raw ← fieldsOr item
    let name := textOf raw "alias"
    let authMode := if textOf raw "auth_mode" == "" then "account" else textOf raw "auth_mode"
    if name == "" then .error (.definition "account profile alias is required")
    else if seen.contains name then .error (.definition ("duplicate account profile alias: " ++ name))
    else if !accountAuthModes.contains authMode then .error (.definition
      ("account profile " ++ name ++ ": unsupported auth_mode '" ++ authMode ++ "'"))
    else do
      let profile : ProfileDoc :=
        ⟨⟨name, authMode, textOf raw "profile_ref", textOf raw "account_ref", textOf raw "provider_ref",
          textOf raw "context_ref", textOf raw "role"⟩, textOf raw "description"⟩
      return profile :: (← readProfiles (name :: seen) rest)

/-- `_normalize_step` on every item, from a number on. -/
def readSteps : ℕ → List Json → Except ChainError (List StepDoc)
  | _, [] => .ok []
  | index, item :: rest => do
    let step ← readStep index (← fieldsOr item)
    return step :: (← readSteps (index + 1) rest)

/-- The loop over the steps, which sets what each of them depends on. -/
def checkDocs (profiles : List ChainAccountProfile) : List ChainStep → List StepDoc → Except ChainError (List StepDoc)
  | _, [] => .ok []
  | earlier, step :: rest => do
    let checked ← checkStep profiles earlier step.base
    return { step with dependsOn := checked.dependsOn } :: (← checkDocs profiles (earlier ++ [checked]) rest)

/-! ## Secrets -/

def forbiddenKeys : List String :=
  ["authorization", "proxy-authorization", "cookie", "set-cookie", "cookies", "token", "access_token", "refresh_token",
    "id_token", "session", "session_id", "sessionid", "password", "passwd", "pwd", "secret", "client_secret",
    "private_key", "apikey", "api_key", "credential", "credentials", "bearer", "sign", "signature", "auth_header"]

/-- The names of `_SECRET_VALUE_PATTERNS`. -/
def secretRules : List String :=
  ["jwt", "bearer", "known_token", "private_key", "long_hex", "long_base64", "long_digit_run"]

mutual

/-- `_scan_value`, with the search of the patterns open: pointers and rules. -/
def scanValue (search : String → String → Bool) : Json → String → Bool → List (String × String)
  | .obj fields, pointer, strict => scanFields search fields pointer strict
  | .arr items, pointer, strict => scanItems search items 0 pointer strict
  | .int n, pointer, strict => if strict && 99999999 < n.natAbs then [(pointer, "large_integer_identifier")] else []
  | .str text, pointer, strict =>
    match secretRules.find? fun rule => (rule != "long_digit_run" || strict) && search rule text with
    | some rule => [(pointer, rule)]
    | none => []
  | _, _, _ => []

def scanFields (search : String → String → Bool) : List (String × Json) → String → Bool → List (String × String)
  | [], _, _ => []
  | (key, value) :: rest, pointer, strict =>
    (if forbiddenKeys.contains (lower (stripped key)) then [(pointer ++ "." ++ stripped key, "forbidden_key")] else []) ++
      scanValue search value (pointer ++ "." ++ stripped key)
        (strict || stripped key == "value" || stripped key == "path_template") ++
      scanFields search rest pointer strict

def scanItems (search : String → String → Bool) : List Json → ℕ → String → Bool → List (String × String)
  | [], _, _, _ => []
  | value :: rest, index, pointer, strict =>
    scanValue search value (pointer ++ "[" ++ toString index ++ "]") strict ++
      scanItems search rest (index + 1) pointer strict

end

def assertNoSecrets (search : String → String → Bool) (definition : Json) : Except ChainError Unit :=
  let findings := scanValue search definition "$" false
  if findings.isEmpty then .ok ()
  else .error (.definition ("chain definition would persist secrets or raw identifiers: " ++
    ", ".intercalate ((findings.take 5).map fun e => e.1 ++ ":" ++ e.2)))

/-! ## Definitions -/

/-- `normalize_chain_definition` -/
def normalizeDocument (search : String → String → Bool) (raw : Json) : Except ChainError ChainDoc :=
  match raw with
  | .obj raw =>
    let version := if textOf raw "schema_version" == "" then chainSchemaVersion else textOf raw "schema_version"
    let name := textOf raw "name"
    if version != chainSchemaVersion then .error (.definition ("unsupported chain schema_version: " ++ version))
    else if !isChainName name then
      .error (.definition ("chain name must match ^[a-z0-9][a-z0-9._-]\x7b2,80\x7d$ (got '" ++ name ++ "')"))
    else do
      let items ← itemsOr (Dict.get raw "steps")
      let steps ← readSteps 0 items
      if steps.isEmpty then .error (.definition "chain definition requires at least one step")
      else do
        let refs ← textsOr (Dict.get raw "source_response_refs")
        let profiles ← readProfiles [] (← itemsOr (Dict.get raw "account_profiles"))
        if ¬ (steps.map (·.stepId)).Nodup then .error (.definition "step_id values must be unique")
        else if ¬ (steps.map (·.responseRef)).Nodup then .error (.definition "response_ref values must be unique")
        else do
          let steps ← checkDocs (profiles.map (·.toChainAccountProfile)) [] steps
          let definition : ChainDoc := {
            name := name, title := textOf raw "title", projectId := textOf raw "project_id", envId := textOf raw "env_id"
            sourceRef := textOf raw "source_ref", sourceKind := textOf raw "source_kind", sourceResponseRefs := refs
            accountProfiles := profiles, steps := steps, description := textOf raw "description" }
          assertNoSecrets search (.obj definition.toDict)
          return definition
  | _ => .error (.definition "chain definition must be a JSON object")

end ApiManger.Chain
