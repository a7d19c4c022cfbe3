import Mathlib.Algebra.Group.Int.Defs
import ApiManger.Collection.Keyed
import ApiManger.Collection.SortedSet
import ApiManger.Imperative.Routine
import ApiManger.Parameters.Identity
import ApiManger.Python.Value

/-!
# Archives of parameters

`build_profile_archive_plan` and `apply_profile_archive_plan` of
`apiAnalysis/rule/profile_parameter_archive.py`. The plan is built of the archive rows and of
what the samples showed of each parameter; the digests are parameters, as is the text that
`_value_key` makes of a value.
-/

namespace ApiManger.Parameters
open Python Collection Imperative

/-! ## Rows and their states -/

/-- `parameter_archive`. -/
structure ArchiveRow where
  id : ℕ
  parameter : String
  parameterid : List Json := []
  reqPathid : List Json := []
  resPathid : List Json := []
  reqValue : List Json := []
  resValue : List Json := []
  properties : List String := []
  modificator : String := ""
  projectId : String := ""
  envId : String := ""
  accountId : String := ""
  profileRevisionId : String := ""
  sourceKind : String := ""
  sourceWatermark : String := ""
  deriving DecidableEq

/-- What `_archive_state` reads of a row. -/
structure ArchiveState where
  parameter : String
  parameterids : List Int
  reqPathids : List Int
  resPathids : List Int
  reqValues : List Json
  resValues : List Json
  properties : List String
  modificator : String
  projectId : String
  envId : String
  accountId : String
  profileRevisionId : String
  sourceKind : String
  sourceWatermark : String
  deriving DecidableEq

mutual

/-- The integers of a value, also of lists inside lists; what is not one is skipped. -/
def Json.pathids : Json → List Int
  | .arr items => Json.pathidsOf items
  | value => match value.toInt with
    | .ok n => [n]
    | .error _ => []

def Json.pathidsOf : List Json → List Int
  | [] => []
  | value :: rest => Json.pathids value ++ Json.pathidsOf rest

end

/-- `_normalized_pathids`, in order. -/
def normalizedPathids (values : List Json) : List Int := sortedSet (Json.pathidsOf values)

def archiveState (row : ArchiveRow) : Except PyError ArchiveState := do
  let parameterids ← row.parameterid.mapM Json.toInt
  return {
    parameter := row.parameter
    parameterids := sorted parameterids
    reqPathids := normalizedPathids row.reqPathid
    resPathids := normalizedPathids row.resPathid
    reqValues := row.reqValue
    resValues := row.resValue
    properties := sorted (row.properties.filter (· != ""))
    modificator := row.modificator
    projectId := row.projectId
    envId := row.envId
    accountId := row.accountId
    profileRevisionId := row.profileRevisionId
    sourceKind := row.sourceKind
    sourceWatermark := row.sourceWatermark }

/-- The stored rows; an id is used once. -/
structure ArchiveStore where
  rows : List ArchiveRow
  nextId : ℕ
  below : Below ArchiveRow.id nextId rows
  distinct : Distinct ArchiveRow.id rows

/-- `PROFILE_ARCHIVE_SOURCE_KIND`, which is also the property of these rows. -/
def sourceKind : String := "profile_scoped_request_sample_v1"

/-- The selection that a plan is made for, and its limits. -/
structure ArchiveContext where
  projectId : String
  envId : String
  profileRevisionId : String
  accountKey : String
  inputWatermark : String
  maxExistingArchives : ℕ
  maxValuesPerArchive : ℕ

/-- Whether the identity query of a plan matches a row. -/
def ArchiveContext.selects (ctx : ArchiveContext) (row : ArchiveRow) : Bool :=
  row.projectId == ctx.projectId && row.envId == ctx.envId && row.accountId == ctx.accountKey &&
    row.profileRevisionId == ctx.profileRevisionId && row.sourceKind == sourceKind

/-! ## Plans -/

inductive ArchiveAction where
  | create | update | unchanged
  deriving DecidableEq

structure ArchiveOperation (δ : Type) where
  identity : String
  parameter : String
  parameterids : List Int
  reqPathids : List Int
  resPathids : List Int
  reqValues : List Json
  resValues : List Json
  properties : List String
  existingId : Option ℕ
  beforeSha256 : δ
  action : ArchiveAction
  deriving DecidableEq

structure ProfileArchivePlan (δ : Type) where
  context : ArchiveContext
  operations : List (ArchiveOperation δ)
  blockers : List String
  planSha256 : String

/-- What the samples showed of a parameter, with the ids that its metadata has. -/
structure ArchiveGroup where
  identity : String
  aliases : List (String × ℕ)
  parameterids : List Int
  reqPathids : List Int
  resPathids : List Int
  reqValues : List Json
  resValues : List Json

/-- The groups in the order of their identities. -/
structure ArchiveGroups where
  groups : List ArchiveGroup
  ordered : groups.Pairwise (·.identity < ·.identity)
  identified : ∀ g ∈ groups, g.identity ≠ ""

/-- The digest of a state (of none, for a row that is missing) as a value of `δ`, that of a plan, and the text of a
value. -/
structure ArchiveDigests (δ : Type) where
  state : Option ArchiveState → δ
  plan : String → List (ArchiveOperation δ) → List String → String
  valueKey : Json → String
  collisionFree : Function.Injective state

/-- `ProfileArchiveError`, or an exception of Python. -/
inductive ArchiveError where
  | rejected (message : String)
  | python (e : PyError)
  deriving DecidableEq

def boundedRows (rows : List ArchiveRow) (limit : ℕ) (label : String) : Except ArchiveError (List ArchiveRow) :=
  if limit < rows.length then
    .error (.rejected (label ++ " budget exceeded: " ++ toString rows.length ++ " > " ++ toString limit))
  else .ok rows

/-- `_merge_values`, with the keys that were seen before. -/
def mergeValues (key : Json → String) (limit : ℕ) : List String → List Json → List Json
  | _, [] => []
  | seen, value :: rest =>
    if seen.contains (key value) then mergeValues key limit seen rest
    else if limit ≤ seen.length + 1 then [value]
    else value :: mergeValues key limit (seen ++ [key value]) rest

variable {δ : Type} (digests : ArchiveDigests δ)

def operationState (ctx : ArchiveContext) (op : ArchiveOperation δ) : ArchiveState where
  parameter := op.parameter
  parameterids := op.parameterids
  reqPathids := op.reqPathids
  resPathids := op.resPathids
  reqValues := op.reqValues
  resValues := op.resValues
  properties := op.properties
  modificator := sourceKind
  projectId := ctx.projectId
  envId := ctx.envId
  accountId := ctx.accountKey
  profileRevisionId := ctx.profileRevisionId
  sourceKind := sourceKind
  sourceWatermark := ctx.inputWatermark

/-- The operation that makes the row of a group. -/
def createOperation (ctx : ArchiveContext) (g : ArchiveGroup) : ArchiveOperation δ where
  identity := g.identity
  parameter := preferredParameterName g.identity g.aliases
  parameterids := sortedSet g.parameterids
  reqPathids := sortedSet g.reqPathids
  resPathids := sortedSet g.resPathids
  reqValues := mergeValues digests.valueKey ctx.maxValuesPerArchive [] g.reqValues
  resValues := mergeValues digests.valueKey ctx.maxValuesPerArchive [] g.resValues
  properties := [sourceKind]
  existingId := none
  beforeSha256 := digests.state none
  action := .create

def updateOperation (ctx : ArchiveContext) (g : ArchiveGroup) (existing : ArchiveRow) :
    Except PyError (ArchiveOperation δ) := do
  let ids ← existing.parameterid.mapM Json.toInt
  let before ← archiveState existing
  let op : ArchiveOperation δ := {
    identity := g.identity
    parameter := if existing.parameter != "" then existing.parameter else preferredParameterName g.identity g.aliases
    parameterids := sortedSet (g.parameterids ++ ids)
    reqPathids := sortedSet (normalizedPathids existing.reqPathid ++ g.reqPathids)
    resPathids := sortedSet (normalizedPathids existing.resPathid ++ g.resPathids)
    reqValues := mergeValues digests.valueKey ctx.maxValuesPerArchive [] (existing.reqValue ++ g.reqValues)
    resValues := mergeValues digests.valueKey ctx.maxValuesPerArchive [] (existing.resValue ++ g.resValues)
    properties := sortedSet (existing.properties.filter (· != "") ++ [sourceKind])
    existingId := some existing.id
    beforeSha256 := digests.state (some before)
    action := .update }
  return { op with action := if before = operationState ctx op then .unchanged else .update }

def operationOf (ctx : ArchiveContext) (existing : List ArchiveRow) (g : ArchiveGroup) :
    Except PyError (ArchiveOperation δ) :=
  match existing.find? fun row => parameterIdentity row.parameter == g.identity with
  | none => .ok (createOperation digests ctx g)
  | some row => updateOperation digests ctx g row

/-- `build_profile_archive_plan`, from the number of eligible samples and what they showed. -/
def buildProfileArchivePlan (ctx : ArchiveContext) (eligible : ℕ) (shown : ArchiveGroups) (store : ArchiveStore) :
    Except ArchiveError (ProfileArchivePlan δ) := do
  let existing ← boundedRows (store.rows.filter ctx.selects) ctx.maxExistingArchives "existing profile archive"
  let identities := (existing.map fun row => parameterIdentity row.parameter).filter (· != "")
  if ¬identities.Nodup then .error (.rejected "duplicate profile archive identity detected")
  else do
    let operations ← (shown.groups.mapM (operationOf digests ctx existing)).mapError .python
    let blockers :=
      if eligible = 0 then ["PROFILE_SCOPED_REQUEST_SAMPLES_UNAVAILABLE"]
      else if operations.isEmpty then ["PROFILE_SCOPED_ARCHIVABLE_VALUES_UNAVAILABLE"] else []
    return {
      context := ctx
      operations := operations
      blockers := blockers
      planSha256 := digests.plan ctx.inputWatermark operations blockers }

/-! ## Applying a plan -/

def plannedRow (ctx : ArchiveContext) (op : ArchiveOperation δ) (id : ℕ) : ArchiveRow where
  id := id
  parameter := op.parameter
  parameterid := op.parameterids.map .int
  reqPathid := op.reqPathids.map .int
  resPathid := op.resPathids.map .int
  reqValue := op.reqValues
  resValue := op.resValues
  properties := op.properties
  modificator := sourceKind
  projectId := ctx.projectId
  envId := ctx.envId
  accountId := ctx.accountKey
  profileRevisionId := ctx.profileRevisionId
  sourceKind := sourceKind
  sourceWatermark := ctx.inputWatermark

/-- The document database stores integers of 64 bits. -/
def storableInt (n : Int) : Bool := -(2 ^ 63) ≤ n && n < 2 ^ 63

mutual

def Json.storable : Json → Bool
  | .int n => storableInt n
  | .arr items => Json.storableItems items
  | .obj fields => Json.storableFields fields
  | _ => true

def Json.storableItems : List Json → Bool
  | [] => true
  | value :: rest => Json.storable value && Json.storableItems rest

def Json.storableFields : List (String × Json) → Bool
  | [] => true
  | (_, value) :: rest => Json.storable value && Json.storableFields rest

end

def ArchiveOperation.storable (op : ArchiveOperation δ) : Bool :=
  (op.reqValues ++ op.resValues).all Json.storable &&
    (op.parameterids ++ op.reqPathids ++ op.resPathids).all storableInt

namespace ArchiveStore
variable (s : ArchiveStore)

def row? (id : ℕ) : Option ArchiveRow := lookup ArchiveRow.id s.rows id

/-- A row that is new. -/
def insert (ctx : ArchiveContext) (op : ArchiveOperation δ) : ArchiveStore where
  rows := s.rows ++ [plannedRow ctx op s.nextId]
  nextId := s.nextId + 1
  below := s.below.append rfl
  distinct := s.below.distinct_append s.distinct rfl

/-- A row that is there. -/
def write (ctx : ArchiveContext) (op : ArchiveOperation δ) (id : ℕ) : ArchiveStore where
  rows := s.rows.map fun row => if row.id == id then plannedRow ctx op row.id else row
  nextId := s.nextId
  below := s.below.map fun row => by split <;> rfl
  distinct := s.distinct.map fun row => by split <;> rfl

end ArchiveStore

/-- The row that an operation writes, after its check; none for a new one. -/
def targetOf [DecidableEq δ] (ctx : ArchiveContext) (op : ArchiveOperation δ) (s : ArchiveStore) :
    Except ArchiveError (Option ℕ) :=
  match op.action with
  | .create => do
    let rows ← boundedRows (s.rows.filter ctx.selects) ctx.maxExistingArchives "current profile archive"
    if rows.any fun row => parameterIdentity row.parameter == op.identity then
      .error (.rejected "profile archive changed after planning")
    else .ok none
  | _ => match op.existingId.bind s.row? with
    | none => .error (.rejected "profile archive changed after planning")
    | some row => do
      let state ← (archiveState row).mapError .python
      if digests.state (some state) ≠ op.beforeSha256 then
        .error (.rejected "profile archive changed after planning")
      else .ok (some row.id)

/-- `row.save()`. -/
def saveRow (ctx : ArchiveContext) (op : ArchiveOperation δ) (target : Option ℕ) :
    Routine ArchiveStore ArchiveError Unit :=
  if op.storable then
    Routine.modify fun s => match target with
      | none => s.insert ctx op
      | some id => s.write ctx op id
  else Routine.raise (.python (.other "OverflowError"))

/-- The body of the loop over the operations. -/
def applyOperation [DecidableEq δ] (ctx : ArchiveContext) (op : ArchiveOperation δ) :
    Routine ArchiveStore ArchiveError Unit :=
  if op.action = .unchanged then Routine.ret ()
  else do
    let s ← Routine.get
    let target ← Routine.ofExcept (targetOf digests ctx op s)
    saveRow ctx op target

/-- `apply_profile_archive_plan`; it returns the number of rows that it wrote. -/
def applyProfileArchivePlan [DecidableEq δ] (plan : ProfileArchivePlan δ) (expectedPlanSha256 : String) :
    Routine ArchiveStore ArchiveError ℕ :=
  if plan.blockers ≠ [] then Routine.raise (.rejected "blocked profile archive plan cannot be applied")
  else if stripped expectedPlanSha256 ≠ plan.planSha256 then
    Routine.raise (.rejected "expected plan hash does not match the current plan")
  else do
    Routine.forEach (applyOperation digests plan.context) plan.operations
    return (plan.operations.filter (·.action ≠ .unchanged)).length

end ApiManger.Parameters
