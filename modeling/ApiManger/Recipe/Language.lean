import Mathlib.Algebra.Group.Int.Defs
import ApiManger.Account.JsonFile
import ApiManger.Mfa.Codes

/-!
# The language of authentication recipes

`apiAnalysis/tool/auth_recipe.py` up to its executor: which recipes are accepted, how
templates are rendered, and how values are taken out of a response. A recipe is data, so
every field of it may hold any value; what an operation raises on a value it was not made
for is part of the model.
-/

namespace ApiManger.Recipe
open Python Account Mfa

def recipeSchemaVersion : Int := 1

def maxRecipeSteps : ℕ := 12

def maxAuthRequests : Int := 6

def setOperations : List String :=
  ["literal", "unix_time", "uuid4", "concat", "md5", "sha256", "base64", "rsa_encrypt"]

def forbiddenRequestHeaders : List String :=
  ["connection", "content-length", "host", "proxy-authorization", "transfer-encoding", "upgrade"]

def authFailureCodes : List String := [
  "CONFIG_INVALID", "AUTH_HOST_UNREACHABLE", "CREDENTIAL_REJECTED", "MFA_OR_INTERACTION_REQUIRED",
  "LOGIN_PROTOCOL_CHANGED", "TOKEN_EXTRACTION_FAILED", "SESSION_ESTABLISH_FAILED", "IDENTITY_VERIFY_FAILED",
  "BUSINESS_AUDIENCE_MISMATCH", "RATE_LIMITED", "ADAPTER_RUNTIME_ERROR"]

/-! ## Values -/

def attributeError : PyError := .other "AttributeError"
def overflowError : PyError := .other "OverflowError"
def indexError : PyError := .other "IndexError"
def cookieConflictError : PyError := .other "CookieConflictError"
def unsupportedAlgorithm : PyError := .other "UnsupportedAlgorithm"

variable (value : Json)

/-- `str(value or default)`. -/
def strOr (default : String) : String := if value.truthy then value.pyStr else default

/-- `value or default`. -/
def valueOr (value default : Json) : Json := if value.truthy then value else default

/-- `int` of a float, of which the text is known; `Infinity` and `NaN` are floats too. -/
def floatInt (text : String) : Except PyError Int :=
  let negative := text.toList.head? == some '-'
  let body := if negative then text.toList.drop 1 else text.toList
  if body == "Infinity".toList then .error overflowError
  else
    let mantissa := body.takeWhile fun c => c != 'e' && c != 'E'
    let exponent := (body.dropWhile fun c => c != 'e' && c != 'E').drop 1
    let fraction := (mantissa.dropWhile (· != '.')).drop 1
    match readDigits 0 (mantissa.takeWhile (· != '.') ++ fraction),
        if exponent.isEmpty then some 0 else readInt exponent with
    | some digits, some exponent =>
      let shift := exponent - fraction.length
      let size : Int := if 0 ≤ shift then digits * 10 ^ shift.toNat else digits / 10 ^ (-shift).toNat
      .ok (if negative then -size else size)
    | _, _ => .error (.valueError "cannot convert float NaN to integer")

/-- `int(value)`. -/
def asInt : Json → Except PyError Int
  | .float text => floatInt text
  | value => value.toInt

/-- A digit, and then digits between which a single underscore may stand. -/
def areDigits (text : List Char) : Bool := text.head?.any Char.isDigit && (readDigits 0 text).isSome

/-- A sign in front is left out. -/
def unsigned : List Char → List Char
  | '+' :: rest | '-' :: rest => rest
  | text => text

/-- What `float` reads. -/
def isFloatText (text : List Char) : Bool :=
  let body := unsigned text
  let mantissa := body.takeWhile fun c => c != 'e' && c != 'E'
  let exponent := body.dropWhile fun c => c != 'e' && c != 'E'
  let whole := mantissa.takeWhile (· != '.')
  let fraction := (mantissa.dropWhile (· != '.')).drop 1
  ["inf", "infinity", "nan"].contains (lower (String.ofList body)) ||
    (whole.isEmpty || areDigits whole) && (fraction.isEmpty || areDigits fraction) &&
      !(whole.isEmpty && fraction.isEmpty) && (exponent.isEmpty || areDigits (unsigned (exponent.drop 1)))

/-- The first number that is too large for a float. -/
def floatBound : ℕ := 2 ^ 1024 - 2 ^ 970

/-- `float(value)`, as far as it raises. -/
def checkFloat : Json → Except PyError Unit
  | .int n => if floatBound ≤ n.natAbs then .error overflowError else .ok ()
  | .bool _ | .float _ => .ok ()
  | .str s => if isFloatText (strip s) then .ok () else .error (.valueError "could not convert string to float")
  | .null | .arr _ | .obj _ => .error (.typeError "float() argument must be a string or a number")

/-- `iter(value)`. -/
def iterate : Json → Except PyError (List Json)
  | .arr items => .ok items
  | .obj fields => .ok (fields.map fun e => .str e.1)
  | .str s => .ok (s.toList.map fun c => .str (String.ofList [c]))
  | _ => .error (.typeError "object is not iterable")

/-- `(value or {})`, where its items or its keys are asked for. -/
def mappingOr : Except PyError Dict :=
  if value.truthy then match value with
    | .obj fields => .ok fields
    | _ => .error attributeError
  else .ok []

/-- `max(low, min(int(value or default), high))`. -/
def clampedInt (default low high : Int) : Except PyError Int :=
  (asInt (valueOr value (.int default))).map fun n => max low (min n high)

/-! ## Acceptance -/

/-- A step of `validate_recipe`, after the ids in front of it. -/
def validateStep (names : List String) (index : ℕ) (step : Json) : Except PyError (List String) := do
  let .obj step := step | throw (.valueError "authentication recipe step is invalid")
  let stepType := (Dict.get step "type").strOrEmpty
  if !(["set", "http", "mfa_receive"].contains stepType) then
    throw (.valueError "unsupported authentication recipe step")
  let name := strOr (Dict.get step "id") ("step-" ++ toString (index + 1))
  if names.contains name then throw (.valueError "authentication recipe step id is duplicated")
  if stepType == "set" && !setOperations.contains (strOr (Dict.get step "operation") "literal") then
    throw (.valueError "unsupported authentication recipe set operation")
  if stepType != "set" && !(["GET", "POST"].contains (upper (strOr (Dict.get step "method") "POST"))) then
    throw (.valueError "authentication recipe HTTP method is unsupported")
  if stepType == "mfa_receive" then
    let mode := lower (strOr (Dict.get step "mode") "pull")
    if mode != "pull" && mode != "push" then throw (.valueError "unsupported MFA receiver mode")
    if mode == "pull" && stripped (Dict.get step "url").strOrEmpty == "" then
      throw (.valueError "pull MFA receiver requires a URL")
    if mode == "push" && !isReceiverId (stripped (Dict.get step "receiver_id").strOrEmpty).toList then
      throw (.valueError "MFA receiver id is invalid")
  return names ++ [name]

def validateRecipe (recipe : Json) : Except PyError Unit := do
  let .obj recipe := recipe | throw (.valueError "unsupported authentication recipe schema")
  if (← asInt (valueOr (Dict.get recipe "schema_version") (.int 0))) ≠ recipeSchemaVersion then
    throw (.valueError "unsupported authentication recipe schema")
  let .arr steps := Dict.get recipe "steps" | throw (.valueError "authentication recipe requires a bounded step list")
  if steps.isEmpty || decide (maxRecipeSteps < steps.length) then
    throw (.valueError "authentication recipe requires a bounded step list")
  let _ ← steps.zipIdx.foldlM (fun names p => validateStep names p.2 p.1) []
  match Dict.get recipe "output" with
  | .obj _ => return ()
  | _ => throw (.valueError "authentication recipe output is required")

/-- The fields of a recipe. -/
def fieldsOf : Json → Dict
  | .obj fields => fields
  | _ => []

/-- `recipe.get("steps") or []`, of a recipe that was accepted. -/
def recipeSteps (recipe : Dict) : List Dict :=
  match Dict.get recipe "steps" with
  | .arr steps => steps.map fieldsOf
  | _ => []

/-! ## Templates -/

def isNameChar (c : Char) : Bool := c.isAlphanum || c == '_' || c == '.' || c == '-'

/-- `_TEMPLATE.match`: the name, and the text behind the template. -/
def matchTemplate : List Char → Option (String × List Char)
  | a :: b :: rest =>
    if a == '\x7b' && b == '\x7b' then
      let inner := rest.dropWhile isSpace
      let name := inner.takeWhile isNameChar
      match (inner.dropWhile isNameChar).dropWhile isSpace with
      | c :: d :: behind =>
        if !name.isEmpty && c == '\x7d' && d == '\x7d' then some (String.ofList name, behind) else none
      | _ => none
    else none
  | _ => none

/-- The value that the parts of a path lead to. -/
def lookupIn : Json → List String → Option Json
  | value, [] => some value
  | .obj fields, part :: rest => if part == "" then none else (Dict.get? fields part).bind (lookupIn · rest)
  | _, _ :: _ => none

def lookup (context : Dict) (path : String) : Except PyError Json :=
  match lookupIn (.obj context) (split path '.') with
  | some value => .ok value
  | none => .error (.keyError path)

/-- `_TEMPLATE.sub`, after a template that still covers some characters. -/
def substitute (context : Dict) : ℕ → List Char → Except PyError (List Char)
  | _, [] => .ok []
  | covered + 1, _ :: rest => substitute context covered rest
  | 0, c :: rest => match matchTemplate (c :: rest) with
    | some (name, behind) => do
      let value ← lookup context name
      let later ← substitute context (rest.length - behind.length) rest
      return value.pyStr.toList ++ later
    | none => do return c :: (← substitute context 0 rest)

mutual

def render (context : Dict) : Json → Except PyError Json
  | .obj fields => do return .obj (← renderFields context fields)
  | .arr items => do return .arr (← renderItems context items)
  | .str s => match matchTemplate s.toList with
    | some (name, []) => lookup context name
    | _ => do return .str (String.ofList (← substitute context 0 s.toList))
  | value => .ok value

def renderItems (context : Dict) : List Json → Except PyError (List Json)
  | [] => .ok []
  | x :: xs => do return (← render context x) :: (← renderItems context xs)

def renderFields (context : Dict) : List (String × Json) → Except PyError (List (String × Json))
  | [] => .ok []
  | (key, x) :: xs => do return (key, ← render context x) :: (← renderFields context xs)

end

/-! ## Paths into a document -/

/-- `part.isdigit()`, for digits of the ASCII alphabet. -/
def isIndex (part : String) : Bool := part != "" && part.toList.all Char.isDigit

/-- The parts of a path, one by one. -/
def jsonPathFrom : Json → List String → Except PyError Json
  | current, [] => .ok current
  | current, part :: rest =>
    if part == "" then jsonPathFrom current rest
    else match current with
      | .arr items =>
        if isIndex part then match items[(readDigits 0 part.toList).getD 0]? with
          | some item => jsonPathFrom item rest
          | none => .error indexError
        else .error (.keyError part)
      | .obj fields => match Dict.get? fields part with
        | some value => jsonPathFrom value rest
        | none => .error (.keyError part)
      | _ => .error (.keyError part)

def jsonPath (path : String) : Except PyError Json := jsonPathFrom value (split path '.')

/-- `except (KeyError, IndexError, TypeError, ValueError)`. -/
def isLookupError : PyError → Bool
  | .keyError _ | .typeError _ | .valueError _ => true
  | e => e == indexError

def jsonMatchValue (rule : Dict) : Except PyError Json := do
  let matchPath := stripped (Dict.get rule "match_path").strOrEmpty
  let valuePath := strOr (Dict.get rule "path") "code"
  if matchPath == "" then return ← jsonPath value valuePath
  let listPath := stripped (Dict.get rule "list_path").strOrEmpty
  let rows ← if listPath == "" then pure value else jsonPath value listPath
  let .arr rows := rows | throw (.keyError "list_path")
  let expected := (Dict.get rule "match_value").strOrEmpty
  let found := (rows.take 100).findSome? fun item => match jsonPath item matchPath, jsonPath item valuePath with
    | .ok key, .ok value => if key.pyStr == expected then some value else none
    | _, _ => none
  match found with
  | some value => return value
  | none => throw (.keyError "match_value")

/-! ## Headers and failures -/

def safeHeaders (values : Json) : Except PyError (Mapping String) := do
  let .obj fields := values | throw (.valueError "recipe headers must be an object")
  fields.foldlM (fun result e => do
    let name := stripped e.1
    let value := e.2.pyStr
    if name == "" || forbiddenRequestHeaders.contains (lower name) || !valueAllowed value then
      throw (.valueError "recipe contains an unsafe request header")
    return result.set name value) .empty

/-- `code in AUTH_FAILURE_CODES`: what cannot be hashed raises. -/
def isFailureCode : Json → Except PyError Bool
  | .str code => .ok (authFailureCodes.contains code)
  | .arr _ | .obj _ => .error (.typeError "unhashable type")
  | _ => .ok false

def statusFailureCode (status : Int) (step : Dict) : Except PyError String := do
  let explicit := Dict.get (← mappingOr (Dict.get step "error_status_map")) (toString status)
  if ← isFailureCode explicit then return explicit.pyStr
  return if status = 401 ∨ status = 403 then "CREDENTIAL_REJECTED"
    else if status = 404 ∨ status = 405 ∨ status = 410 ∨ status = 421 then "LOGIN_PROTOCOL_CHANGED"
    else if status = 429 then "RATE_LIMITED" else "SESSION_ESTABLISH_FAILED"

structure AuthRecipeFailure where
  code : String
  stage : String
  requestCount : ℕ
  diagnostics : List Dict

/-- `AuthRecipeFailure(...)`. -/
def AuthRecipeFailure.make (code stage : String) (requestCount : ℕ) (diagnostics : List Dict) : AuthRecipeFailure where
  code := if authFailureCodes.contains code then code else "ADAPTER_RUNTIME_ERROR"
  stage := firstChars (if stage == "" then "runtime" else stage) 80
  requestCount := requestCount
  diagnostics := diagnostics.drop (diagnostics.length - 12)

end ApiManger.Recipe
