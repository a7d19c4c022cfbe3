import Mathlib.Data.List.Sort
import Mathlib.Data.String.Basic
import ApiManger.Python.Mapping
import ApiManger.Python.Text

/-!
# Policies of the AI command line

`apiAnalysis/ai_cli/policy.py`: access presets, approval preferences, policy files and the
fragments with a person's answers for single tools. What is read of a file or a directory is
an argument.
-/

namespace ApiManger.AiCli
open Python

/-- `ACCESS_PRESETS`. -/
inductive Access where
  | readOnly | workspaceWrite | fullAccess | custom
  deriving DecidableEq

/-- `APPROVAL_PREFERENCES`. -/
inductive Approval where
  | always | onRisk | never
  deriving DecidableEq

def validateAccess : String → Except PyError Access
  | "read-only" => .ok .readOnly
  | "workspace-write" => .ok .workspaceWrite
  | "full-access" => .ok .fullAccess
  | "custom" => .ok .custom
  | _ => .error (.valueError "access must be one of read-only, workspace-write, full-access, custom")

def validateApproval : String → Except PyError Approval
  | "always" => .ok .always
  | "on-risk" => .ok .onRisk
  | "never" => .ok .never
  | _ => .error (.valueError "approval must be one of always, on-risk, never")

/-- The items of `PRESET_CAPABILITIES`, by what an access grants. -/
def presetItems (write network : Bool) : List (String × Bool) :=
  [("project.read", true), ("data.read", true), ("filesystem.read", true), ("filesystem.write", write),
    ("network.request", network), ("command.shell", network), ("api.mutation", network), ("plugin", network)]

def presetCapabilities : Access → Mapping Bool
  | .readOnly => .ofItems (presetItems false false)
  | .workspaceWrite => .ofItems (presetItems true false)
  | .fullAccess => .ofItems (presetItems true true)
  | .custom => .empty

/-- The answers of `capability_status`. -/
inductive Status where
  | allowed | denied | unknown
  deriving DecidableEq

/-- The status of a capability that is listed, or not. -/
def statusOf : Option Bool → Status
  | some true => .allowed
  | some false => .denied
  | none => .unknown

structure AiPolicy where
  access : Access := .readOnly
  approval : Approval := .onRisk
  capabilities : Mapping Bool := .empty
  allowTools : Mapping Bool := .empty
  fragmentDir : String := ""

def AiPolicy.capabilityStatus (policy : AiPolicy) (capability : String) : Status :=
  match policy.capabilities.get? capability with
  | some allowed => statusOf (some allowed)
  | none => statusOf ((presetCapabilities policy.access).get? capability)

/-! ## Policy files -/

/-- What is at the path of a policy file. -/
inductive PolicyFile where
  | missing
  | toml
  | invalid
  | json (payload : Json)

/-- An item of a list of pairs. -/
def pairOf : Json → Except PyError (String × Json)
  | .arr [.str key, value] => .ok (key, value)
  | _ => .error (.typeError "cannot convert dictionary update sequence")

/-- `dict(value or {})`, of a dictionary or a list of pairs. -/
def dictOf : Json → Except PyError (Mapping Json)
  | .obj fields => .ok (.ofItems fields)
  | .arr items => (items.mapM pairOf).map .ofItems
  | x => if x.truthy then .error (.typeError "object is not iterable") else .ok .empty

/-- The check of `AiPolicy.validate` of one capability. -/
def capabilityValue (capability : String) : Json → Except PyError Bool
  | .bool allowed => .ok allowed
  | x => .error (.valueError ("capability " ++ capability ++ " must be a boolean, got " ++ x.pyRepr))

/-- Capabilities that are each a boolean. -/
def booleans (listed : Mapping Json) : Except PyError (Mapping Bool) :=
  (listed.items.mapM fun e => (capabilityValue e.1 e.2).map (e.1, ·)).map .ofItems

/-- The other fields of a file that have to be dictionaries. -/
def sectionFields : List String := ["filesystem", "network", "commands", "api_testing", "evidence"]

/-- `str(payload.get(key) or "").strip() or default`. -/
def textOr (payload : Dict) (key default : String) : String :=
  let given := stripped (Dict.get payload key).strOrEmpty
  if given = "" then default else given

def policyFromFile : PolicyFile → Except PyError AiPolicy
  | .missing => .error (.other "FileNotFoundError")
  | .toml => .error (.valueError "TOML policy files require Python 3.11+ (tomllib) or tomli; use a JSON policy file instead")
  | .invalid => .error (.valueError "policy file is not valid JSON")
  | .json (.obj payload) => do
    let access ← validateAccess (textOr payload "access" "custom")
    let approval ← validateApproval (textOr payload "approval" "on-risk")
    let listed ← dictOf (Dict.get payload "capabilities")
    let _ ← sectionFields.mapM fun key => dictOf (Dict.get payload key)
    let capabilities ← booleans listed
    return { access := access, approval := approval, capabilities := (presetCapabilities access).update capabilities }
  | .json _ => .error (.valueError "policy file must contain a JSON object")

/-! ## Fragments -/

/-- The files of a directory by their names, each with its JSON document; none where it has none. -/
abbrev Directory := Mapping (Option Json)

/-- Runs of characters outside `[A-Za-z0-9._-]` become one underscore. -/
def squash : Bool → List Char → List Char
  | _, [] => []
  | inRun, c :: rest =>
    if c.isAlphanum || c == '.' || c == '_' || c == '-' then c :: squash false rest
    else if inRun then squash true rest else '_' :: squash true rest

def safeFragmentName (toolName : String) : String :=
  let edge (c : Char) : Bool := c == '.' || c == '_'
  let name := (((squash false toolName.toList).dropWhile edge).reverse.dropWhile edge).reverse
  if name.isEmpty then "tool" else String.ofList name

/-- The tool of a fragment and its answer. -/
def fragmentOf : Option Json → Option (String × Bool)
  | some (.obj payload) =>
    let tool := stripped (Dict.get payload "tool").strOrEmpty
    if tool = "" then none else some (tool, ((Dict.get? payload "allow").getD (.bool true)).truthy)
  | _ => none

/-- The fragments of a directory, in the order of the names of their files. -/
def fragments (directory : Directory) : List (String × Bool) :=
  (((directory.items.filter fun e => endsWith e.1 ".json").insertionSort fun a b => a.1 ≤ b.1).map (·.2)).filterMap fragmentOf

def mergeFragments (policy : AiPolicy) (path : String) (directory : Directory) : AiPolicy :=
  { policy with
    fragmentDir := path
    allowTools := (fragments directory).foldl (fun tools e => tools.set e.1 e.2) policy.allowTools }

def saveFragment (toolName : String) (allow : Bool) (directory : Directory) : Directory :=
  directory.set (safeFragmentName toolName ++ ".json") (some (.obj
    [("allow", .bool allow), ("note", .str "generated by apiAnalysis.ai_cli approval prompt"),
      ("schema_version", .str "ai.policy.v1"), ("tool", .str toolName)]))

/-- The policy of a file under the access and the approval of the command line. -/
def overridden (access : Access) (approval : Approval) (loaded : AiPolicy) : AiPolicy :=
  { loaded with
    access := access
    approval := approval
    capabilities := if access = .custom then loaded.capabilities else (presetCapabilities access).update loaded.capabilities }

def composePolicy (access approval : String) (file : Option PolicyFile) (path : String) (directory : Directory) :
    Except PyError AiPolicy := do
  let requested ← validateAccess access
  let preference ← validateApproval approval
  match file with
  | some file => do
    let loaded ← policyFromFile file
    let explicit := access != "read-only" || approval != "on-risk"
    return mergeFragments (if explicit then overridden requested preference loaded else loaded) path directory
  | none =>
    return mergeFragments
      { access := requested, approval := preference, capabilities := presetCapabilities requested } path directory

end ApiManger.AiCli
