import ApiManger.Interleaving.Program
import ApiManger.Routing.Decisions

/-!
# Projects of sources

`ensure_data_source`, `ensure_source_binding` and `ensure_project_for_source` of
`apiAnalysis/project_context.py` as programs over atomic reads and writes. A document is saved
by an update of the fields that were changed. Seeding the plan of an environment answers with a
report on every error and writes none of these documents.
-/

namespace ApiManger.Projects
open Python Routing Interleaving

/-! ## The documents -/

structure ApiProject where
  projectId : String
  name : String
  active : Bool := true
  createdFromSource : Option (String × String) := none

/-- `ProjectSourceBinding` as it is inserted; a binding of older imports names no data source. -/
structure BindingContent where
  projectId : String
  dataSourceId : String := ""
  sourceType : String
  sourceId : String
  envId : Option String := none
  workspaceId : String := ""
  routingRules : Dict := []
  active : Bool := true
  disabledBy : String := ""

structure SourceBinding extends BindingContent where
  id : ℕ

/-- The stored documents; an environment is listed where it is active. -/
structure ProjectStore where
  sources : List DataSource := []
  projects : List ApiProject := []
  bindings : List SourceBinding := []
  environments : List (String × String) := []
  nextBinding : ℕ := 0

namespace ProjectStore
variable (s : ProjectStore)

/-- `DataSource.objects(source_type=..., external_id=...).first()`. -/
def findSource (sourceType externalId : String) : Option DataSource :=
  s.sources.find? fun x => x.sourceType == sourceType && x.externalId == externalId

/-- `DataSource.objects(data_source_id=...).first()`. -/
def source (dataSourceId : String) : Option DataSource := s.sources.find? (·.dataSourceId == dataSourceId)

/-- `ApiProject.objects(project_id=...).first()`. -/
def project (projectId : String) : Option ApiProject := s.projects.find? (·.projectId == projectId)

/-- `ApiProject.objects(project_id=..., status=ApiProject.ACTIVE).first()`. -/
def activeProject (projectId : String) : Option ApiProject :=
  s.projects.find? fun p => p.projectId == projectId && p.active

/-- The active binding of a source and an environment, in a project where one is named. -/
def sourceBinding (dataSourceId envId : String) (projectId : Option String) : Option SourceBinding :=
  s.bindings.find? fun b =>
    b.dataSourceId == dataSourceId && b.envId == some envId && b.active && projectId.all (b.projectId == ·)

/-- The active binding that an older import made. -/
def legacyBinding (sourceType sourceId envId : String) (projectId : Option String) : Option SourceBinding :=
  s.bindings.find? fun b => b.sourceType == sourceType && b.sourceId == sourceId &&
    b.envId == some envId && b.active && projectId.all (b.projectId == ·)

/-- The binding at the unique index. -/
def binding (projectId dataSourceId envId : String) : Option SourceBinding :=
  s.bindings.find? fun b => b.projectId == projectId && b.dataSourceId == dataSourceId && b.envId == some envId

section
variable {s}

theorem findSource_some {type external : String} {x : DataSource} (found : s.findSource type external = some x) :
    x ∈ s.sources ∧ x.sourceType = type ∧ x.externalId = external := by
  have hit := List.find?_some found
  simp only [Bool.and_eq_true, beq_iff_eq] at hit
  exact ⟨List.mem_of_find?_eq_some found, hit⟩

theorem source_some {dataSourceId : String} {x : DataSource} (found : s.source dataSourceId = some x) :
    x.dataSourceId = dataSourceId := by
  have hit := List.find?_some found
  exact beq_iff_eq.mp hit

theorem activeProject_some {projectId : String} {p : ApiProject} (found : s.activeProject projectId = some p) :
    p.projectId = projectId := by
  have hit := List.find?_some found
  exact beq_iff_eq.mp (Bool.and_eq_true_iff.mp hit).1

theorem sourceBinding_some {dataSourceId envId : String} {projectId : Option String} {b : SourceBinding}
    (found : s.sourceBinding dataSourceId envId projectId = some b) : b ∈ s.bindings ∧ b.dataSourceId = dataSourceId := by
  have hit := List.find?_some found
  simp only [Bool.and_eq_true, beq_iff_eq] at hit
  exact ⟨List.mem_of_find?_eq_some found, hit.1.1.1⟩

theorem legacyBinding_some {type id envId : String} {projectId : Option String} {b : SourceBinding}
    (found : s.legacyBinding type id envId projectId = some b) :
    b ∈ s.bindings ∧ b.sourceType = type ∧ b.sourceId = id := by
  have hit := List.find?_some found
  simp only [Bool.and_eq_true, beq_iff_eq] at hit
  exact ⟨List.mem_of_find?_eq_some found, hit.1.1.1⟩

theorem binding_some {projectId dataSourceId envId : String} {b : SourceBinding}
    (found : s.binding projectId dataSourceId envId = some b) : b ∈ s.bindings ∧ b.dataSourceId = dataSourceId := by
  have hit := List.find?_some found
  simp only [Bool.and_eq_true, beq_iff_eq] at hit
  exact ⟨List.mem_of_find?_eq_some found, hit.1.2⟩

end

/-- The unique indexes of `DataSource`. -/
def sourceTaken (x : DataSource) : Bool :=
  s.sources.any fun y =>
    y.dataSourceId == x.dataSourceId || (y.sourceType == x.sourceType && y.externalId == x.externalId)

/-- The unique index of `ProjectSourceBinding`. -/
def bindingTaken (c : BindingContent) : Bool :=
  s.bindings.any fun b => b.projectId == c.projectId && b.dataSourceId == c.dataSourceId && b.envId == c.envId

/-- An update of one source. -/
def updateSource (dataSourceId : String) (f : DataSource → DataSource) : ProjectStore :=
  { s with sources := s.sources.map fun x => if x.dataSourceId == dataSourceId then f x else x }

def updateBinding (id : ℕ) (f : BindingContent → BindingContent) : ProjectStore :=
  { s with bindings := s.bindings.map fun b => if b.id == id then ⟨f b.toBindingContent, b.id⟩ else b }

end ProjectStore

/-! ## The programs -/

/-- What `ensure_project_for_source` returns. -/
structure ProjectAnswer where
  projectId : String
  projectName : String
  bindingId : ℕ
  created : Bool

inductive ProjectOp where
  | findSource (sourceType externalId : String)
  | insertSource (source : DataSource)
  | saveSource (dataSourceId : String) (name workspaceId : Option String)
  | sourceBinding (dataSourceId envId : String) (projectId : Option String)
  | legacyBinding (sourceType sourceId envId : String) (projectId : Option String)
  | adoptBinding (id : ℕ) (dataSourceId : String)
  | uuid
  | findProject (projectId : String)
  | insertProject (project : ApiProject)
  | source (dataSourceId : String)
  | activeProject (projectId : String)
  | activeEnvironment (projectId envId : String)
  | findBinding (projectId dataSourceId envId : String)
  | insertBinding (content : BindingContent)
  | saveBinding (id : ℕ) (enable : Bool) (routingRules : Option Dict)
  | answer (result : Except PyError ProjectAnswer)

def ProjectOp.Ret : ProjectOp → Type
  | .findSource .. | .source _ => Option DataSource
  | .sourceBinding .. | .legacyBinding .. | .findBinding .. => Option SourceBinding
  | .uuid => String
  | .findProject _ | .activeProject _ => Option ApiProject
  | .activeEnvironment .. => Bool
  | .insertBinding _ => ℕ
  | .insertSource _ | .saveSource .. | .adoptBinding .. | .insertProject _ | .saveBinding .. | .answer _ => Unit

def projectSignature : Signature where
  Op := ProjectOp
  Ret := ProjectOp.Ret
  Err := PyError

/-- One read or write. -/
def perform (o : ProjectOp) : Prog projectSignature o.Ret := Prog.perform (S := projectSignature) o

/-- A value where it is one and differs from the stored one. -/
def changedText (value stored : String) : Option String := if value != "" && stored != value then some value else none

/-- The document of a source, made where it is missing. -/
def fileSource (identity : String → String → String) (type external name workspaceId : String) :
    Prog projectSignature DataSource := do
  let found ← perform (.findSource type external)
  match found with
  | none => do
    let source : DataSource :=
      { dataSourceId := identity type external, sourceType := type, externalId := external
        name := firstChars (if name != "" then name else type ++ ":" ++ external) 240, workspaceId := workspaceId }
    perform (.insertSource source)
    return source
  | some source => do
    let name' := changedText (firstChars name 240) source.name
    let workspaceId' := changedText workspaceId source.workspaceId
    Prog.when (name'.isSome || workspaceId'.isSome) (perform (.saveSource source.dataSourceId name' workspaceId'))
    return { source with
      name := name'.getD source.name, workspaceId := workspaceId'.getD source.workspaceId }

/-- `ensure_data_source`, with the `data_source_identity` and no configuration. -/
@[irreducible] def ensureDataSource (identity : String → String → String) (sourceType externalId name workspaceId : String) :
    Prog projectSignature DataSource :=
  if lower (stripped sourceType) == "" || stripped externalId == "" then
    .raise (.valueError "source_type and external_id are required")
  else fileSource identity (lower (stripped sourceType)) (stripped externalId) name workspaceId

/-- The rules of a binding with new ones, where this changes them. -/
def changedRules (binding : BindingContent) (rules : Dict) : Option Dict :=
  let merged := rules.foldl (fun d e => Dict.set d e.1 e.2) binding.routingRules
  if !rules.isEmpty && merged != binding.routingRules then some merged else none

/-- An environment that is named has to be active in the project. -/
def requireEnvironment (projectId envId : String) : Prog projectSignature Unit :=
  if envId != "" then do
    let available : Bool ← perform (.activeEnvironment projectId envId)
    if available then return () else .raise (.valueError "selected project environment is unavailable")
  else return ()

/-- `ensure_source_binding`; what its caller reads of the binding is the id. -/
def ensureSourceBinding (dataSourceId projectId envId : String) (routingRules : Dict) : Prog projectSignature ℕ := do
  let source ← perform (.source dataSourceId)
  let project ← perform (.activeProject projectId)
  match source, project with
  | some source, some project => do
    let env := stripped envId
    requireEnvironment project.projectId env
    let found ← perform (.findBinding project.projectId source.dataSourceId env)
    match found with
    | none => perform (.insertBinding
        { projectId := project.projectId, dataSourceId := source.dataSourceId, sourceType := source.sourceType
          sourceId := source.externalId, envId := some env, workspaceId := source.workspaceId
          routingRules := routingRules })
    | some binding => do
      let rules := changedRules binding.toBindingContent routingRules
      Prog.when (!binding.active || rules.isSome) (perform (.saveBinding binding.id (!binding.active) rules))
      return binding.id
  | _, _ => .raise (.valueError "data source and active project are required")

/-- The arguments of `ensure_project_for_source`. -/
structure EnsureCall where
  sourceType : String
  sourceId : String
  name : String := ""
  envId : String := ""
  projectId : String := ""
  workspaceId : String := ""
  routingRules : Dict := []

namespace EnsureCall
variable (call : EnsureCall)

/-- The source and the environment that a call means. -/
def type : String := lower (stripped call.sourceType)
def id : String := stripped call.sourceId
def env : String := stripped call.envId

def named : Option String := if call.projectId == "" then none else some call.projectId

def projectName : String := if call.name != "" then call.name else call.type ++ ":" ++ call.id

/-- The binding of the source, or the one of an older import. -/
def existingBinding (source : DataSource) : Prog projectSignature (Option SourceBinding) := do
  let found ← perform (.sourceBinding source.dataSourceId call.env call.named)
  match found with
  | some binding => return some binding
  | none => do
    let legacy ← perform (.legacyBinding call.type call.id call.env call.named)
    match legacy with
    | some binding => do
      Prog.when (binding.dataSourceId == "") (perform (.adoptBinding binding.id source.dataSourceId))
      return some binding
    | none => return none

def boundAnswer (binding : SourceBinding) : Prog projectSignature ProjectAnswer := do
  let project ← perform (.findProject binding.projectId)
  return { projectId := binding.projectId, projectName := (project.map (·.name)).getD ""
           bindingId := binding.id, created := false }

def ensureProject (internalId : String) : Prog projectSignature String := do
  let found ← perform (.findProject internalId)
  match found with
  | some project => return project.name
  | none => do
    perform (.insertProject
      { projectId := internalId, name := call.projectName, createdFromSource := some (call.type, call.id) })
    return call.projectName

/-- A project that is named or new, bound to the source. -/
def createProject (source : DataSource) : Prog projectSignature ProjectAnswer := do
  let internalId ← if call.projectId != "" then Prog.ret call.projectId else perform .uuid
  let name ← call.ensureProject internalId
  let bindingId ← ensureSourceBinding source.dataSourceId internalId call.env call.routingRules
  return { projectId := internalId, projectName := name, bindingId := bindingId, created := true }

@[irreducible] def ensureProjectForSource (identity : String → String → String) : Prog projectSignature ProjectAnswer :=
  if call.type == "" || call.id == "" then .raise (.valueError "source_type and source_id are required")
  else do
    let source ← ensureDataSource identity call.type call.id call.projectName call.workspaceId
    let found ← call.existingBinding source
    match found with
    | some binding => boundAnswer binding
    | none => call.createProject source

/-- A call, with what it returns or raises. -/
def code (identity : String → String → String) : Prog projectSignature Unit :=
  Prog.bind (Prog.handle (Prog.bind (call.ensureProjectForSource identity) fun a => .ret (.ok a))
    fun e => .ret (.error e)) fun result => perform (.answer result)

end EnsureCall

/-! ## The machine -/

/-- `uuid4`, whose values do not repeat, and `data_source_identity`, a prefix and a digest. -/
structure ProjectOutside where
  uuid : ℕ → String
  identity : String → String → String
  distinct : Function.Injective uuid
  identified : ∀ type id, identity type id ≠ ""

/-- The source and the environment that all calls mean. -/
structure SourceKey where
  type : String
  id : String
  env : String
  deriving DecidableEq

def EnsureCall.key (call : EnsureCall) : SourceKey := ⟨call.type, call.id, call.env⟩

/-- The store, with the number of uuids taken and three histories: the first call that found no binding, the
calls that inserted a project, and how calls ended. -/
structure ProjectState where
  store : ProjectStore
  uuids : ℕ := 0
  creator : Option ℕ := none
  creators : List ℕ := []
  answers : List (ℕ × Except PyError ProjectAnswer) := []

/-- One atomic operation. -/
def execProject (out : ProjectOutside) (t : ℕ) :
    (o : ProjectOp) → ProjectState → Except PyError o.Ret × ProjectState
  | .findSource type external, s => (.ok (s.store.findSource type external), s)
  | .insertSource x, s =>
    if s.store.sourceTaken x then (.error (.other "NotUniqueError"), s)
    else (.ok (), { s with store := { s.store with sources := s.store.sources ++ [x] } })
  | .saveSource id name workspaceId, s => (.ok (), { s with
      store := s.store.updateSource id fun x =>
        { x with name := name.getD x.name, workspaceId := workspaceId.getD x.workspaceId } })
  | .sourceBinding id env project, s => (.ok (s.store.sourceBinding id env project), s)
  | .legacyBinding type id env project, s =>
    let found := s.store.legacyBinding type id env project
    (.ok found, if found.isNone && s.creator.isNone then { s with creator := some t } else s)
  | .adoptBinding id dataSourceId, s =>
    let adopted (b : BindingContent) : BindingContent := { b with dataSourceId := dataSourceId }
    if (s.store.bindings.find? (·.id == id)).any fun b => s.store.bindingTaken (adopted b.toBindingContent) then
      (.error (.other "NotUniqueError"), s)
    else (.ok (), { s with store := s.store.updateBinding id adopted })
  | .uuid, s => (.ok (out.uuid s.uuids), { s with uuids := s.uuids + 1 })
  | .findProject id, s => (.ok (s.store.project id), s)
  | .insertProject p, s =>
    if (s.store.project p.projectId).isSome then (.error (.other "NotUniqueError"), s)
    else (.ok (), { s with
      store := { s.store with projects := s.store.projects ++ [p] }
      creators := t :: s.creators })
  | .source id, s => (.ok (s.store.source id), s)
  | .activeProject id, s => (.ok (s.store.activeProject id), s)
  | .activeEnvironment id env, s => (.ok (s.store.environments.contains (id, env)), s)
  | .findBinding project source env, s => (.ok (s.store.binding project source env), s)
  | .insertBinding c, s =>
    if s.store.bindingTaken c then (.error (.other "NotUniqueError"), s)
    else (.ok s.store.nextBinding, { s with store := { s.store with
      bindings := s.store.bindings ++ [⟨c, s.store.nextBinding⟩], nextBinding := s.store.nextBinding + 1 } })
  | .saveBinding id enable rules, s => (.ok (), { s with
      store := s.store.updateBinding id fun b => { b with
        active := enable || b.active, disabledBy := if enable then "" else b.disabledBy
        routingRules := rules.getD b.routingRules } })
  | .answer result, s => (.ok (), { s with answers := (t, result) :: s.answers })

/-- Any number of calls without a project, for one source and one environment. -/
def projectDesk (out : ProjectOutside) (key : SourceKey) : Machine projectSignature where
  State := ProjectState
  Tid := ℕ
  Input := EnsureCall
  exec t o _ s := some (execProject out t o s)
  start _ call s := if call.key = key ∧ call.projectId = "" then some (call.code out.identity, s) else none
  environment _ _ := none

/-- A call starts for the source of the machine. -/
theorem projectDesk_start {out : ProjectOutside} {key : SourceKey} {t : ℕ} {call : EnsureCall} {s s' : ProjectState}
    {p : Prog projectSignature Unit} (code : (projectDesk out key).start t call s = some (p, s')) :
    (call.key = key ∧ call.projectId = "") ∧ p = call.code out.identity ∧ s' = s := by
  simp only [projectDesk] at code
  split at code
  · rename_i fits
    obtain ⟨same, kept⟩ := Prod.mk.inj (Option.some.inj code)
    exact ⟨fits, same.symm, kept.symm⟩
  · cases code

instance (out : ProjectOutside) (key : SourceKey) : DecidableEq (projectDesk out key).Tid :=
  inferInstanceAs (DecidableEq ℕ)

def startProjects (out : ProjectOutside) (key : SourceKey) (store : ProjectStore) : Config (projectDesk out key) :=
  Config.initial (M := projectDesk out key) { store := store }

end ApiManger.Projects
