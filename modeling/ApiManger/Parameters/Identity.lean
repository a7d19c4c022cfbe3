import Mathlib.Data.String.Basic
import ApiManger.Python.Text

/-!
# Identities of parameters

The names under which occurrences of parameters are grouped: `normalized_leaf`,
`parameter_identity` and `preferred_parameter_name` of `apiAnalysis/tool/parameter_identity.py`
over `canonical_name` of `apiAnalysis/tool/parameter_dependency.py`.
-/

namespace ApiManger.Parameters
open Python

/-- `re.sub(r"\\[[^\\]]*\\]", "", text)`; inside a pair of brackets the first argument is true. -/
def dropBrackets : Bool → List Char → List Char
  | _, [] => []
  | true, c :: rest => dropBrackets (c != ']') rest
  | false, c :: rest =>
    if c == '[' && rest.contains ']' then dropBrackets true rest else c :: dropBrackets false rest

def isLowerOrDigit (c : Char) : Bool := ('a' ≤ c && c ≤ 'z') || ('0' ≤ c && c ≤ '9')

/-- A character of a normalized name. -/
def isNameChar (c : Char) : Bool := isLowerOrDigit c || c == '_'

/-- `re.sub(r"(?<=[a-z0-9])(?=[A-Z])", "_", text)`. -/
def splitCamel : List Char → List Char
  | a :: b :: rest =>
    if isLowerOrDigit a && 'A' ≤ b && b ≤ 'Z' then a :: '_' :: splitCamel (b :: rest) else a :: splitCamel (b :: rest)
  | rest => rest

/-- `re.sub(r"_+", "_", text)`. -/
def collapse : List Char → List Char
  | '_' :: '_' :: rest => collapse ('_' :: rest)
  | c :: rest => c :: collapse rest
  | [] => []

/-- `text.strip("_")`. -/
def stripUnderscores (text : List Char) : List Char :=
  ((text.dropWhile (· == '_')).reverse.dropWhile (· == '_')).reverse

/-- What stands after the last dot. -/
def lastPart (text : String) : String := (split text '.').getLast?.getD ""

def normalizedLeaf (value : String) : String :=
  let text := splitCamel (dropBrackets false (lastPart (stripped value)).toList)
  let text := (stripUnderscores (text.map fun c => if c == '-' then '_' else c)).map Char.toLower
  String.ofList (collapse (text.filter isNameChar))

/-- `leaf` of `parameter_dependency`. -/
def leaf (name : String) : String :=
  String.ofList ((lower (stripped (lastPart name))).toList.filter isNameChar)

def canonicalAliases : List (String × List String) := [
  ("userid", ["userid", "user_id", "uid"]),
  ("entid", ["entid", "ent_id", "enterpriseid", "enterprise_id", "tenantid", "tenant_id"]),
  ("ent_user_id", ["ent_user_id", "entuserid", "ent_userid"]),
  ("remoteid", ["remoteid", "remote_id", "remoteids"]),
  ("clientid", ["clientid", "client_id", "clientids"]),
  ("tagid", ["tagid", "tag_id", "tagids"]),
  ("policy_id", ["policy_id", "policyid"]),
  ("system_policy_id", ["system_policy_id", "systempolicyid"]),
  ("packageid", ["packageid", "package_id"]),
  ("seatid", ["seatid", "seat_id"]),
  ("macid", ["macid", "mac_id"]),
  ("fastcode", ["fastcode", "fast_code"]),
  ("transferid", ["transferid", "transfer_id"]),
  ("moduleid", ["moduleid", "module_id"]),
  ("securityid", ["securityid", "security_id"]),
  ("departmentid", ["departmentid", "department_id", "department_ids"]),
  ("groupid", ["groupid", "group_id", "group_ids"]),
  ("roleid", ["roleid", "role_id"]),
  ("grant_id", ["grant_id", "grantid"]),
  ("featureid", ["featureid", "feature_id"]),
  ("script_id", ["script_id", "scriptid"]),
  ("task_id", ["task_id", "taskid"]),
  ("zj_id", ["zj_id", "zjid"]),
  ("configid", ["configid", "config_id"])]

def canonicalName (name : String) : String :=
  let low := leaf name
  match canonicalAliases.find? fun entry => entry.2.contains low with
  | some entry => entry.1
  | none => low

def parameterIdentity (parameter : String) (canonicalHint : String := "") : String :=
  let rawLeaf := normalizedLeaf parameter
  let hintedLeaf := normalizedLeaf canonicalHint
  let candidate := if rawLeaf != "" then rawLeaf else hintedLeaf
  let identity := canonicalName candidate
  let identity := if identity == "" && hintedLeaf != "" then canonicalName hintedLeaf else identity
  if identity != "" then identity else if candidate != "" then candidate else hintedLeaf

def occurrenceAlias (parameter : String) (canonicalHint : String := "") : String :=
  let rawLeaf := normalizedLeaf parameter
  if rawLeaf != "" then rawLeaf else normalizedLeaf canonicalHint

/-- A text without characters has no identity. -/
theorem parameterIdentity_empty : parameterIdentity "" = "" := by decide +kernel

/-- The key by which `preferred_parameter_name` compares names. -/
structure NameKey where
  count : ℕ
  underscored : Bool
  same : Bool
  length : ℕ
  name : String

/-- The order of these keys; among shorter names is the greater one. -/
def NameKey.less (a b : NameKey) : Bool :=
  if a.count != b.count then a.count < b.count
  else if a.underscored != b.underscored then b.underscored
  else if a.same != b.same then b.same
  else if a.length != b.length then b.length < a.length
  else a.name < b.name

def nameKey (identity : String) (entry : String × ℕ) : NameKey where
  count := entry.2
  underscored := entry.1.toList.contains '_'
  same := entry.1 == identity
  length := entry.1.length
  name := entry.1

/-- `max(names, key=...)`: the first of the greatest. -/
def greatestName (identity : String) (first : String × ℕ) (rest : List (String × ℕ)) : String × ℕ :=
  rest.foldl (fun best entry => if (nameKey identity best).less (nameKey identity entry) then entry else best) first

def preferredParameterName (identity : String) (aliasCounts : List (String × ℕ)) : String :=
  let counts := aliasCounts.filter (·.1 != "")
  let compatible := counts.filter fun entry => parameterIdentity entry.1 == identity
  match (if compatible.isEmpty then counts else compatible) with
  | [] => identity
  | first :: rest => (greatestName identity first rest).1

end ApiManger.Parameters
