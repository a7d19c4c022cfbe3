import ApiManger.Collection.Keyed
import ApiManger.Interleaving.Program
import ApiManger.Python.Value

/-!
# Test plans

`create_plan`, `create_next_version`, `activate_plan` and `archive_plan` of
`apiAnalysis/tool/test_plan.py` as programs over atomic reads and writes of the stored plans.
A plan is saved by an update of the fields that were changed, its status.
-/

namespace ApiManger.Plans
open Python Collection Interleaving

inductive PlanStatus where
  | draft | active | archived
  deriving DecidableEq

/-- The fields of a `security_test_plan` that no call changes. -/
structure PlanContent where
  name : String
  projectId : String
  checkType : String
  envId : Option String := none
  adapterId : Option String := none
  adapterVersion : Option String := none
  authMode : String := "inherit"
  authProfileId : Option String := none
  scope : Dict := []
  executionPolicy : Dict := []
  snapshotFilter : Dict := []
  requestBudget : Option Int := none
  description : Option String := none
  createdBy : Option String := none
  parentPlanId : Option ℕ := none
  version : Int := 1
  deriving DecidableEq

/-- `security_test_plan`. -/
structure TestPlan where
  id : ℕ
  content : PlanContent
  status : PlanStatus := .draft
  deriving DecidableEq

/-- What `plan_content_sha256` hashes. -/
def planPayload (c : PlanContent) : Dict :=
  let text (value : Option String) : Json := .str (value.getD "")
  [("name", .str c.name), ("project_id", .str c.projectId), ("env_id", text c.envId), ("version", .int c.version),
    ("check_type", .str c.checkType), ("adapter_id", text c.adapterId), ("adapter_version", text c.adapterVersion),
    ("auth_mode", .str c.authMode), ("auth_profile_id", text c.authProfileId), ("scope", .obj c.scope),
    ("execution_policy", .obj c.executionPolicy), ("snapshot_filter", .obj c.snapshotFilter),
    ("request_budget", (c.requestBudget.map .int).getD .null)]

/-- The project, the environment and the name. -/
def TestPlan.slot (p : TestPlan) : String × String × String :=
  (p.content.projectId, p.content.envId.getD "", p.content.name)

/-- The stored plans. -/
structure PlanStore where
  plans : List TestPlan
  nextId : ℕ
  below : Below TestPlan.id nextId plans
  distinct : Distinct TestPlan.id plans

namespace PlanStore

variable (s : PlanStore)

/-- `security_test_plan.objects(id=plan_id).first()`. -/
def plan? (id : ℕ) : Option TestPlan := lookup TestPlan.id s.plans id

/-- The greatest version of a name in a project. -/
def latest (projectId name : String) : Option Int :=
  ((s.plans.filter fun p => p.content.projectId == projectId && p.content.name == name).map (·.content.version)).max?

/-- An update of the status of the plans that match. -/
def setStatus (p : TestPlan → Bool) (status : PlanStatus) : PlanStore where
  plans := s.plans.map fun plan => if p plan then { plan with status := status } else plan
  nextId := s.nextId
  below := s.below.map fun plan => by split <;> rfl
  distinct := s.distinct.map fun plan => by split <;> rfl

/-- A new document. -/
def insert (content : PlanContent) (status : PlanStatus) : PlanStore where
  plans := s.plans ++ [⟨s.nextId, content, status⟩]
  nextId := s.nextId + 1
  below := s.below.append rfl
  distinct := s.below.distinct_append s.distinct rfl

/-- The unique index on the project, the name and the version. -/
def taken (c : PlanContent) : Bool :=
  s.plans.any fun p =>
    p.content.projectId == c.projectId && p.content.name == c.name && p.content.version == c.version

end PlanStore

/-! ## The programs -/

inductive PlanOp where
  | find (id : ℕ)
  | latest (projectId name : String)
  | insert (content : PlanContent) (status : PlanStatus)
  | archiveActive (plan : TestPlan)
  | saveActive (plan : TestPlan)
  | saveArchived (plan : TestPlan)

def PlanOp.Ret : PlanOp → Type
  | .find _ => Option TestPlan
  | .latest .. => Option Int
  | .insert .. | .archiveActive _ | .saveActive _ | .saveArchived _ => Unit

def planSignature : Signature where
  Op := PlanOp
  Ret := PlanOp.Ret
  Err := PyError

/-- One read or write. -/
def perform (o : PlanOp) : Prog planSignature o.Ret := Prog.perform (S := planSignature) o

/-- The fields that the overrides of a next version may set. -/
structure PlanOverrides where
  name : Option String := none
  projectId : Option String := none
  checkType : Option String := none
  envId : Option String := none
  adapterId : Option String := none
  adapterVersion : Option String := none
  authMode : Option String := none
  authProfileId : Option String := none
  scope : Option Dict := none
  executionPolicy : Option Dict := none
  snapshotFilter : Option Dict := none
  requestBudget : Option Int := none
  description : Option String := none
  createdBy : Option String := none
  parentPlanId : Option ℕ := none
  version : Option Int := none
  status : Option PlanStatus := none

/-- `data.update({k: v for k, v in overrides.items() if v is not None})`. -/
def PlanOverrides.apply (o : PlanOverrides) (c : PlanContent) : PlanContent where
  name := o.name.getD c.name
  projectId := o.projectId.getD c.projectId
  checkType := o.checkType.getD c.checkType
  envId := o.envId.or c.envId
  adapterId := o.adapterId.or c.adapterId
  adapterVersion := o.adapterVersion.or c.adapterVersion
  authMode := o.authMode.getD c.authMode
  authProfileId := o.authProfileId.or c.authProfileId
  scope := o.scope.getD c.scope
  executionPolicy := o.executionPolicy.getD c.executionPolicy
  snapshotFilter := o.snapshotFilter.getD c.snapshotFilter
  requestBudget := o.requestBudget.or c.requestBudget
  description := o.description.or c.description
  createdBy := o.createdBy.or c.createdBy
  parentPlanId := o.parentPlanId.or c.parentPlanId
  version := o.version.getD c.version

def planNotFound (id : ℕ) : PyError := .valueError ("plan " ++ toString id ++ " not found")

def statusText : PlanStatus → String
  | .draft => "draft"
  | .active => "active"
  | .archived => "archived"

/-- `create_plan`; its arguments are the content of the plan. -/
def createPlan (content : PlanContent) : Prog planSignature Unit :=
  perform (.insert { content with version := 1, parentPlanId := none } .draft)

def createNextVersion (id : ℕ) (createdBy : Option String) (overrides : PlanOverrides) : Prog planSignature Unit := do
  let found ← perform (.find id)
  match found with
  | none => .raise (planNotFound id)
  | some source => do
    let latest ← perform (.latest source.content.projectId source.content.name)
    let copy := { source.content with
      parentPlanId := some source.id, version := (latest.map (· + 1)).getD 1, createdBy := createdBy }
    perform (.insert (overrides.apply copy) (overrides.status.getD .draft))

def activatePlan (id : ℕ) : Prog planSignature Unit := do
  let found ← perform (.find id)
  match found with
  | none => .raise (planNotFound id)
  | some plan =>
    if plan.status ≠ .draft then
      .raise (.valueError ("plan " ++ toString id ++ " is " ++ statusText plan.status ++ ", only draft can be activated"))
    else do
      perform (.archiveActive plan)
      perform (.saveActive plan)

def archivePlan (id : ℕ) : Prog planSignature Unit := do
  let found ← perform (.find id)
  match found with
  | none => .raise (planNotFound id)
  | some plan => perform (.saveArchived plan)

/-! ## The machine -/

inductive PlanCall where
  | create (content : PlanContent)
  | next (id : ℕ) (createdBy : Option String) (overrides : PlanOverrides)
  | activate (id : ℕ)
  | archive (id : ℕ)

def PlanCall.code : PlanCall → Prog planSignature Unit
  | .create content => createPlan content
  | .next id createdBy overrides => createNextVersion id createdBy overrides
  | .activate id => activatePlan id
  | .archive id => archivePlan id

/-- The store, with three histories: the plan a thread has archived the others for and has not saved yet,
whether another plan of its slot became active since, and whether an activation archived an active plan of
another environment. -/
structure PlanState where
  store : PlanStore
  pending : ℕ → Option TestPlan
  overtaken : ℕ → Bool
  crossed : Bool

/-- Whether an archiving update for a plan matches a stored one. -/
def archives (plan p : TestPlan) : Bool :=
  p.content.projectId == plan.content.projectId && p.content.name == plan.content.name && p.status == .active

/-- Whether it matches an active plan of another environment. -/
def crosses (plan p : TestPlan) : Bool :=
  archives plan p && p.content.envId.getD "" != plan.content.envId.getD ""

/-- The threads that are overtaken once a plan is active. -/
def overtakenBy (s : PlanState) (plan : TestPlan) (t : ℕ) : Bool :=
  s.overtaken t || (s.pending t).any fun q => q.slot == plan.slot && q.id != plan.id

/-- One atomic operation. -/
def execPlan (t : ℕ) : (o : PlanOp) → Unit → PlanState → Option (Except PyError o.Ret × PlanState)
  | .find id, _, s => some (.ok (s.store.plan? id), s)
  | .latest projectId name, _, s => some (.ok (s.store.latest projectId name), s)
  | .insert content status, _, s =>
    if s.store.taken content then some (.error (.other "NotUniqueError"), s)
    else some (.ok (), { s with
      store := s.store.insert content status
      overtaken := if status = .active then overtakenBy s ⟨s.store.nextId, content, status⟩ else s.overtaken })
  | .archiveActive plan, _, s => some (.ok (), { s with
      store := s.store.setStatus (archives plan) .archived
      pending := Function.update s.pending t (some plan)
      overtaken := Function.update s.overtaken t false
      crossed := s.crossed || s.store.plans.any (crosses plan) })
  | .saveActive plan, _, s => some (.ok (), { s with
      store := s.store.setStatus (·.id == plan.id) .active
      pending := Function.update s.pending t none
      overtaken := overtakenBy s plan })
  | .saveArchived plan, _, s => some (.ok (), { s with store := s.store.setStatus (·.id == plan.id) .archived })

/-- Any number of operators, each making one call. -/
def planDesk : Machine planSignature where
  State := PlanState
  Tid := ℕ
  Input := PlanCall
  exec t o _ s := execPlan t o () s
  start _ call s := some (call.code, s)
  environment _ _ := none

instance : DecidableEq planDesk.Tid := inferInstanceAs (DecidableEq ℕ)

def startPlans (store : PlanStore) : Config planDesk :=
  Config.initial (M := planDesk) ⟨store, fun _ => none, fun _ => false, false⟩

end ApiManger.Plans
