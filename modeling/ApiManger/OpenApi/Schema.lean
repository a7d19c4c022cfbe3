import ApiManger.Python.Text
import ApiManger.Python.Utf8
import ApiManger.Recipe.Language

/-!
# Fields of OpenAPI documents

What `save.py` reads of an OpenAPI document: `_flatten_schema`, which lists the fields of a
schema under their dotted names, with `_resolve_ref`, which follows its references, and
`_openapi_parameters`, which joins the parameters of a path item and of its operation. The
recursion of `_flatten_schema` has a depth at which Python gives it up.
-/

namespace ApiManger.OpenApi
open Python
open Recipe (iterate attributeError)

/-- `value.get(…)`: only a dictionary has it. -/
def fieldsOf : Json → Except PyError Dict
  | .obj fields => .ok fields
  | _ => .error attributeError

/-- `key in value`. -/
def hasKey (key : String) : Json → Except PyError Bool
  | .obj fields => .ok (Dict.get? fields key).isSome
  | .arr items => .ok (items.contains (.str key))
  | .str text => .ok (containsText text key)
  | _ => .error (.typeError "argument is not iterable")

/-! ## References -/

/-- `ref.lstrip("#/").split("/")`. -/
def refParts (ref : String) : List String :=
  split (String.ofList (ref.toList.dropWhile fun c => c == '#' || c == '/')) '/'

/-- The loop of `_resolve_ref`. -/
def descend : Json → List String → Json
  | node, [] => node
  | .obj fields, part :: parts => descend (Dict.get fields part) parts
  | _, _ :: _ => .null

def resolveRef (ref components : Json) : Except PyError Json :=
  if !ref.truthy || !components.truthy then .ok .null
  else match ref with
    | .str text => .ok (if startsWith text "#/" then descend components (refParts text) else .null)
    | _ => .error attributeError

/-- What a schema stands for: where it has a `$ref`, what that is resolved to, `or {}`. -/
def follow (components schema : Json) : Except PyError Json := do
  if ← hasKey "$ref" schema then
    let resolved ← resolveRef (Dict.get (← fieldsOf schema) "$ref") components
    return if resolved.truthy then resolved else .obj []
  return schema

/-! ## Schemas -/

/-- `f"{parent_key}.{key}" if parent_key else key`. -/
def newKey (parentKey key : String) : String := if parentKey == "" then key else parentKey ++ "." ++ key

/-- The names that a loop extends its list by, one item after the other. -/
def extendEach {α : Type} (names : α → Except PyError (List String)) (items : List α) :
    Except PyError (List String) := (items.mapM names).map List.flatten

/-- `_flatten_schema` behind its reference; `flatten` are the calls it makes of itself. -/
def flattenNode (flatten : Json → String → Except PyError (List String)) (schema : Json) (parentKey : String) :
    Except PyError (List String) := do
  let each (key : String) : Except PyError (List String) := do
    extendEach (flatten · parentKey) (← iterate (Dict.get (← fieldsOf schema) key))
  if ← hasKey "allOf" schema then return ← each "allOf"
  if ← hasKey "oneOf" schema then return ← each "oneOf"
  if ← hasKey "anyOf" schema then return ← each "anyOf"
  let fields ← fieldsOf schema
  let schemaType := Dict.get fields "type"
  let properties := (Dict.get? fields "properties").getD (.obj [])
  if schemaType == .str "object" || properties.truthy then
    let names ← extendEach (fun e => flatten e.2 (newKey parentKey e.1)) (← fieldsOf properties)
    return if !properties.truthy && parentKey != "" then names ++ [parentKey] else names
  if schemaType == .str "array" then
    let nested ← flatten ((Dict.get? fields "items").getD (.obj [])) (parentKey ++ "[]")
    return if !nested.isEmpty then nested else if parentKey != "" then [parentKey ++ "[]"] else []
  return if parentKey != "" then [parentKey] else []

/-- `_flatten_schema`, `depth` calls deep at most. -/
def flattenSchema (components : Json) : Nat → Json → String → Except PyError (List String)
  | 0, _, _ => .error (.other "RecursionError")
  | depth + 1, schema, parentKey => do
    if !schema.truthy then return []
    flattenNode (flattenSchema components depth) (← follow components schema) parentKey

/-! ## Parameters -/

/-- `item.get("parameters", [])`, iterated over. -/
def parametersOf (item : Json) : Except PyError (List Json) := do
  iterate ((Dict.get? (← fieldsOf item) "parameters").getD (.arr []))

/-- `(param.get("name"), param.get("in"))`. -/
def parameterKey (param : Dict) : Json × Json := (Dict.get param "name", Dict.get param "in")

/-- `key in seen`: a key with a list or a dictionary in it cannot be hashed. -/
def isSeen (seen : List (Json × Json)) (key : Json × Json) : Except PyError Bool :=
  match key with
  | (.arr _, _) | (.obj _, _) | (_, .arr _) | (_, .obj _) => .error (.typeError "unhashable type")
  | key => .ok (seen.any fun k => k.1.pyEq key.1 && k.2.pyEq key.2)

/-- The loop of `_openapi_parameters`. -/
def uniqueParameters (seen : List (Json × Json)) : List Json → Except PyError (List Dict)
  | [] => .ok []
  | param :: params => do
    let param ← fieldsOf param
    let key := parameterKey param
    if ← isSeen seen key then uniqueParameters seen params
    else return param :: (← uniqueParameters (key :: seen) params)

def openapiParameters (pathItem operation : Json) : Except PyError (List Dict) := do
  uniqueParameters [] ((← parametersOf pathItem) ++ (← parametersOf operation))

/-! ## What a document says -/

/-- A token of a reference: `~1` is a slash, `~0` a tilde. -/
def unescaped : List Char → List Char
  | '~' :: '1' :: rest => '/' :: unescaped rest
  | '~' :: '0' :: rest => '~' :: unescaped rest
  | c :: rest => c :: unescaped rest
  | [] => []

/-- What the tokens of a reference lead to: members of objects, and items of arrays by their index. -/
def pointTo : Json → List String → Option Json
  | node, [] => some node
  | .obj fields, token :: tokens =>
    (Dict.get? fields (String.ofList (unescaped token.toList))).bind (pointTo · tokens)
  | .arr items, token :: tokens => (token.toNat?.bind (items[·]?)).bind (pointTo · tokens)
  | _, _ :: _ => none

/-- The definition that a local reference `#/components/…` names. -/
def definitionOf (components : Json) (ref : String) : Option Json :=
  if startsWith ref "#/components/" then
    pointTo components (split (unquote (ref.toList.drop "#/components/".length)) '/')
  else none

/-- The definition that a schema refers to, where it is a reference to one. -/
def namedBy (components : Json) : Json → Option Json
  | .obj fields =>
    match Dict.get? fields "$ref" with
    | some (.str ref) => definitionOf components ref
    | _ => none
  | _ => none

end ApiManger.OpenApi
