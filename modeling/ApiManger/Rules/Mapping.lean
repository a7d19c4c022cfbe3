import ApiManger.Python.CompactText
import ApiManger.Rules.Spec

/-!
# Rule specifications as mappings

`RuleSpec.from_mapping`, `from_json`, `to_mapping` and `canonical_sha256` of `apiAnalysis/rule/framework.py`.
A mapping is a document. The text of a list or of an object, which no name pattern accepts, is only as exact as
`Json.pyRepr`.
-/

namespace ApiManger.Rules
open Python

/-! ## Names -/

/-- `str(value)`. -/
def textOf : Json → String
  | .float "Infinity" => "inf"
  | .float "-Infinity" => "-inf"
  | .float "NaN" => "nan"
  | value => value.pyStr

variable (value : Json)

/-- `str(value or "")`. -/
def textOrEmpty : String := if value.truthy then textOf value else ""

/-- `^[a-z]` and then characters that `more` accepts. -/
def isName (more : Char → Bool) : List Char → Bool
  | [] => false
  | c :: rest => c.isLower && rest.all more

/-- `[a-z0-9_.-]`. -/
def isRuleChar (c : Char) : Bool := c.isLower || c.isDigit || c == '_' || c == '.' || c == '-'

/-- `_RULE_ID`. -/
def isRuleId (name : String) : Bool := isName isRuleChar name.toList

/-- `_INPUT_NAME`. -/
def isInputName (name : String) : Bool := isName (fun c => c.isLower || c.isDigit || c == '_') name.toList

/-- `_VERSIONED_NAME`: the digits at the end, the first of them not zero, behind `.v` and a rule id. -/
def isVersionedName (name : String) : Bool :=
  let backward := name.toList.reverse
  let digits := (backward.takeWhile Char.isDigit).reverse
  match digits, backward.dropWhile Char.isDigit with
  | first :: _, 'v' :: '.' :: front => first != '0' && isName isRuleChar front.reverse
  | _, _ => false

/-! ## Reading -/

def check (passes : Bool) (message : String) : Except RuleError Unit :=
  if passes then .ok () else .error (.protocol message)

/-- `_require_exact_keys`: the entries of the object. -/
def requireExactKeys (allowed required : List String) (label : String) : Except RuleError Dict :=
  match value with
  | .obj fields => do
    let unknown := sortedMissing (fields.map (·.1)) allowed
    let missing := sortedMissing required (fields.map (·.1))
    check unknown.isEmpty (label ++ " contains unknown fields: " ++ ", ".intercalate unknown)
    check missing.isEmpty (label ++ " is missing fields: " ++ ", ".intercalate missing)
    return fields
  | _ => throw (.protocol (label ++ " must be an object"))

/-- The entries of an object as those of a dictionary. -/
def entriesOf (fields : Dict) : Arguments := fields.map fun e => (.str e.1, e.2)

/-- A value that `dict` takes as a key. -/
def isHashable : Json → Bool
  | .arr _ => false
  | .obj _ => false
  | _ => true

/-- An element of a list as a pair: a list of two, a text of two characters, an object with two keys. -/
def pairOf : Json → Except RuleError (Json × Json)
  | .arr [key, value] => if isHashable key then .ok (key, value) else .error (.raised "TypeError")
  | .arr _ => .error (.raised "ValueError")
  | .str s =>
    match s.toList with
    | [key, value] => .ok (.str key.toString, .str value.toString)
    | _ => .error (.raised "ValueError")
  | .obj [key, value] => .ok (.str key.1, .str value.1)
  | .obj _ => .error (.raised "ValueError")
  | _ => .error (.raised "TypeError")

/-- `d[key] = value` where keys are told apart by `==`. -/
def Arguments.set (d : Arguments) (pair : Json × Json) : Arguments :=
  if d.any (·.1.pyEq pair.1) then d.map fun e => if e.1.pyEq pair.1 then (e.1, pair.2) else e else d ++ [pair]

/-- `dict(value or \x7b\x7d)`. -/
def dictOf : Except RuleError Arguments :=
  if !value.truthy then .ok []
  else
    match value with
    | .obj fields => .ok (entriesOf fields)
    | .arr items => items.foldlM (fun d item => (pairOf item).map (Arguments.set d)) []
    | .str _ => .error (.raised "ValueError")
    | _ => .error (.raised "TypeError")

/-- `float(value)` of a value whose type is `int` or `float`, within bounds. -/
def parseNumber (low high : ℚ) (message : String) (value : Json) : Except RuleError FloatText :=
  let number :=
    match value with
    | .int n => FloatText.ofText? (toString n ++ ".0")
    | .float t => FloatText.ofText? t
    | _ => none
  match number with
  | some x => if low ≤ x.value ∧ x.value ≤ high then .ok x else .error (.protocol message)
  | none => .error (.protocol message)

/-- A value whose type is `int`, within bounds. -/
def parseInt (within : ℤ → Bool) (message : String) : Json → Except RuleError ℤ
  | .int n => if within n then .ok n else .error (.protocol message)
  | _ => .error (.protocol message)

/-- A value whose type is `bool`. -/
def parseFlag (message : String) : Json → Except RuleError Bool
  | .bool b => .ok b
  | _ => .error (.protocol message)

/-- `str(value or "")` when the pattern accepts it. -/
def parseName (accepts : String → Bool) (message : String) (value : Json) : Except RuleError String :=
  if accepts (textOrEmpty value) then .ok (textOrEmpty value) else .error (.protocol message)

def principalRelations : List String :=
  ["any", "same_principal", "different_principal", "same_profile_revision", "same_scope", "different_scope"]

/-- `value["scope"]`. -/
def parseScope : Except RuleError RuleScope := do
  let fields ← requireExactKeys value ["same_project", "same_environment", "principal_relation"] [] "scope"
  let sameProject ← parseFlag "scope flags must be boolean" ((Dict.get? fields "same_project").getD (.bool false))
  let sameEnvironment ←
    parseFlag "scope flags must be boolean" ((Dict.get? fields "same_environment").getD (.bool false))
  let given := Dict.get fields "principal_relation"
  let relation := if given.truthy then textOf given else "any"
  check (principalRelations.contains relation) "scope principal_relation is unsupported"
  return ⟨sameProject, sameEnvironment, relation⟩

/-- `len(set(items)) == len(items)`. -/
def allDistinct : List Json → Bool
  | [] => true
  | x :: rest => !rest.any x.pyEq && allDistinct rest

/-- `value["inputs"]`. -/
def parseInputs : Json → Except RuleError (List String)
  | .arr items => do
    check (!items.isEmpty) "inputs must be a non-empty unique list"
    if !items.all isHashable then throw (.raised "TypeError")
    check (allDistinct items) "inputs must be a non-empty unique list"
    check (items.all fun item => isInputName (textOrEmpty item)) "inputs contain an invalid name"
    return items.map textOf
  | _ => throw (.protocol "inputs must be a non-empty unique list")

/-- A value whose type is `list`. -/
def parseList (message : String) : Json → Except RuleError (List Json)
  | .arr items => .ok items
  | _ => .error (.protocol message)

def parsePredicate : Except RuleError PredicateCall := do
  let fields ← requireExactKeys value ["name", "args"] ["name"] "predicate"
  let name ← parseName isVersionedName "predicate name must be versioned" (Dict.get fields "name")
  let args := Dict.get fields "args"
  match args.truthy, args with
  | false, _ => return ⟨name, []⟩
  | true, .obj entries => return ⟨name, entriesOf entries⟩
  | true, _ => throw (.protocol "predicate args must be an object")

def parseFeature : Except RuleError ScoreFeature := do
  let fields ← requireExactKeys value ["predicate", "args", "weight"] ["predicate", "weight"] "score feature"
  let weight ← parseNumber (-1) 1 "score feature weight must be between -1 and 1" (Dict.get fields "weight")
  let name ← parseName isVersionedName "score predicate name must be versioned" (Dict.get fields "predicate")
  let args ← dictOf (Dict.get fields "args")
  return ⟨⟨name, args⟩, weight⟩

/-- `value["score"]`. -/
def parseScore : Except RuleError (FloatText × List ScoreFeature) := do
  let fields ← requireExactKeys value ["base", "features"] ["base", "features"] "score"
  let base ← parseNumber 0 1 "score base must be between 0 and 1" (Dict.get fields "base")
  let items ← parseList "score features must be a list" (Dict.get fields "features")
  let features ← items.mapM parseFeature
  return (base, features)

/-- `value["emit"]`, its arguments not yet read. -/
def parseEmit : Except RuleError (String × Json) := do
  let fields ← requireExactKeys value ["adapter", "args"] ["adapter"] "emit"
  let adapter ← parseName isVersionedName "emit adapter must be versioned" (Dict.get fields "adapter")
  return (adapter, Dict.get fields "args")

/-- `value["safety"]`. -/
def parseSafety : Except RuleError RuleSafety := do
  let fields ← requireExactKeys value ["network", "mutation", "max_matches"] ["network", "mutation", "max_matches"]
    "safety"
  check (Dict.get fields "network" == .str "forbidden" && Dict.get fields "mutation" == .str "forbidden")
    "P0 rules must forbid network and mutation"
  let maxMatches ← parseInt (fun n => 1 ≤ n && n ≤ 100000) "safety.max_matches is out of bounds"
    (Dict.get fields "max_matches")
  return ⟨"forbidden", "forbidden", maxMatches⟩

def specKeys : List String :=
  ["schema_version", "rule_id", "version", "kind", "enabled", "scope", "inputs", "predicates", "score", "emit",
    "safety"]

def RuleSpec.fromMapping : Except RuleError RuleSpec := do
  let fields ← requireExactKeys value specKeys specKeys "RuleSpec"
  check (Dict.get fields "schema_version" == .str "rule.v1") "unsupported RuleSpec schema_version"
  let ruleId ← parseName isRuleId "rule_id must be a stable name" (Dict.get fields "rule_id")
  let version ← parseInt (1 ≤ ·) "RuleSpec version must be a positive integer" (Dict.get fields "version")
  check (Dict.get fields "kind" == .str "offline_inference") "P0 only supports offline_inference rules"
  let enabled ← parseFlag "RuleSpec enabled must be boolean" (Dict.get fields "enabled")
  let scope ← parseScope (Dict.get fields "scope")
  let inputs ← parseInputs (Dict.get fields "inputs")
  let calls ← parseList "predicates must be a list" (Dict.get fields "predicates")
  let predicates ← calls.mapM parsePredicate
  let score ← parseScore (Dict.get fields "score")
  let adapter ← parseEmit (Dict.get fields "emit")
  let safety ← parseSafety (Dict.get fields "safety")
  let args ← dictOf adapter.2
  return {
    schemaVersion := "rule.v1", ruleId, version, kind := "offline_inference", enabled, scope, inputs, predicates
    scoreBase := score.1, scoreFeatures := score.2, emit := ⟨adapter.1, args⟩, safety }

def RuleSpec.fromJson (float : String → String) (text : String) : Except RuleError RuleSpec :=
  match Json.loads float text with
  | some value => fromMapping value
  | none => .error (.protocol "RuleSpec is not valid JSON")

/-! ## Printing -/

/-- The arguments as an object; none when a key is no text. -/
def Arguments.fields? (args : Arguments) : Option Dict :=
  args.mapM fun e =>
    match e.1 with
    | .str key => some (key, e.2)
    | _ => none

/-- Entries with `args` where there are any. -/
def withArgs (front args : Dict) : Dict := front ++ if args.isEmpty then [] else [("args", .obj args)]

def PredicateCall.toMapping (call : PredicateCall) : Option Json :=
  call.args.fields?.map fun args => .obj (withArgs [("name", .str call.name)] args)

def ScoreFeature.toMapping (feature : ScoreFeature) : Option Json :=
  feature.predicate.args.fields?.map fun args =>
    .obj (withArgs [("predicate", .str feature.predicate.name), ("weight", .float feature.weight.text)] args)

def EmitSpec.toMapping (emit : EmitSpec) : Option Json :=
  emit.args.fields?.map fun args => .obj (withArgs [("adapter", .str emit.adapter)] args)

def RuleScope.toMapping (scope : RuleScope) : Json :=
  .obj [("same_project", .bool scope.sameProject), ("same_environment", .bool scope.sameEnvironment),
    ("principal_relation", .str scope.principalRelation)]

def RuleSafety.toMapping (safety : RuleSafety) : Json :=
  .obj [("network", .str safety.network), ("mutation", .str safety.mutation), ("max_matches", .int safety.maxMatches)]

/-- The document of a specification with its predicates, features and adapter printed. -/
def RuleSpec.document (r : RuleSpec) (predicates features : List Json) (emit : Json) : Json :=
  .obj [("schema_version", .str r.schemaVersion), ("rule_id", .str r.ruleId), ("version", .int r.version),
    ("kind", .str r.kind), ("enabled", .bool r.enabled), ("scope", r.scope.toMapping),
    ("inputs", .arr (r.inputs.map .str)), ("predicates", .arr predicates),
    ("score", .obj [("base", .float r.scoreBase.text), ("features", .arr features)]), ("emit", emit),
    ("safety", r.safety.toMapping)]

/-- `RuleSpec.to_mapping`; none when some argument has a key that is no text, which no document has. -/
def RuleSpec.toMapping (r : RuleSpec) : Option Json := do
  let predicates ← r.predicates.mapM PredicateCall.toMapping
  let features ← r.scoreFeatures.mapM ScoreFeature.toMapping
  let emit ← r.emit.toMapping
  return r.document predicates features emit

/-- `_canonical_json(self.to_mapping())`. -/
def RuleSpec.canonicalJson (r : RuleSpec) : Option String := r.toMapping.map Json.dumpsCompact

/-- `RuleSpec.canonical_sha256`. -/
def RuleSpec.canonicalSha256 (sha256 : String → String) (r : RuleSpec) : Option String := r.canonicalJson.map sha256

end ApiManger.Rules
