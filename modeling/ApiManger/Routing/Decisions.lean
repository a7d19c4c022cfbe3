import Mathlib.Data.List.Sort
import Mathlib.Logic.Function.Basic
import Mathlib.Algebra.Order.Ring.Rat
import ApiManger.Python.Text
import ApiManger.Python.Mapping
import ApiManger.Collection.UpdateOne

/-!
# Routing decisions

`apiAnalysis/tool/data_source_routing.py`: an operator assigns an observation to a
project and an environment, or ignores it. A decision is appended, and beside it the
signatures in the rules of the source's binding, the sample, its asset and the links
of the asset are brought up to date, each for the one observation that moves.
-/

namespace ApiManger.Routing
open Python Collection

/-! ## Documents -/

/-- `RequestObservation`, as far as it is routed. -/
structure RequestObservation where
  observationId : String
  dataSourceId : String := ""
  sourceType : String
  sourceId : String := ""
  workspaceId : String := ""
  importRunId : String := ""
  method : String
  abstractSignature : String := ""
  sampleId : String := ""

inductive Outcome where
  | assigned | ambiguous | unassigned | ignored
  deriving DecidableEq

/-- One row of `candidate_projects`. -/
structure Candidate where
  projectId : String
  score : Rat
  reasonCodes : List String

/-- `ObservationRoutingDecision`; `taught` is the `future_signature_taught` that the call answered with it. -/
structure RoutingDecision where
  id : ℕ
  selectedProjectId : String := ""
  selectedEnvId : String := ""
  candidateProjects : List Candidate := []
  confidence : Rat := 0
  reasonCodes : List String := []
  decision : Outcome
  ruleVersion : String := "v1"
  manualBy : String := ""
  taught : Bool := false

structure DataSource where
  dataSourceId : String
  sourceType : String
  externalId : String
  name : String
  workspaceId : String := ""

/-- The unique index of `ProjectSourceBinding`. -/
structure BindingKey where
  dataSourceId : String
  projectId : String
  envId : String
  deriving DecidableEq

/-- `ProjectSourceBinding`; `signatures` is the list of its routing rules. -/
structure ProjectSourceBinding where
  sourceType : String
  sourceId : String
  workspaceId : String
  signatures : List String := []
  active : Bool := true
  disabledBy : String := ""

/-- The unique index of `ProjectAssetLink`. -/
structure LinkKey where
  projectId : String
  pathid : Int
  envId : String
  deriving DecidableEq

structure ProjectAssetLink where
  relationship : String := "owned"
  confidence : Rat := 1
  reasonCodes : List String := []
  observationIds : List String := []

/-- `request_sample`; `rawData` is the key of its asset. -/
structure RequestSample where
  rawData : Option String := none
  projectId : String := ""
  envId : String := ""
  importRunId : String := ""
  observationId : String := ""

/-- `raw_data` of an asset. -/
structure RawData where
  ptahId : Int
  projectId : String := ""
  envId : String := ""
  importRunId : String := ""

/-- What routing only reads: the active projects, their active environments, and `data_source_identity`. -/
structure Directory where
  projects : List String
  environments : List (String × String)
  identity : String → String → String
  named : "" ∉ projects
  identified : ∀ sourceType externalId, identity sourceType externalId ≠ ""

/-- The documents that routing reads and writes; the decisions of an observation come newest first. -/
structure RoutingState where
  observations : Mapping RequestObservation := .empty
  decisions : String → List RoutingDecision := fun _ => []
  dataSources : List DataSource := []
  bindings : BindingKey → Option ProjectSourceBinding := fun _ => none
  links : LinkKey → Option ProjectAssetLink := fun _ => none
  samples : Mapping RequestSample := .empty
  assets : String → Option RawData := fun _ => none
  nextId : ℕ := 0

/-! ## Signatures -/

def signatureKey (o : RequestObservation) : String :=
  let signature := stripped o.abstractSignature
  if signature == "" then "" else upper (if o.method == "" then "GET" else o.method) ++ " " ++ signature

/-- `sorted` of a set of texts. -/
def sortedSet (texts : List String) : List String := texts.dedup.insertionSort (· ≤ ·)

/-- The signatures of a binding, without empty ones. -/
def ProjectSourceBinding.ruleSet (b : ProjectSourceBinding) : List String := b.signatures.filter (· != "")

namespace RoutingState

variable (s : RoutingState) (o : RequestObservation)

def latestDecision (observationId : String) : Option RoutingDecision :=
  (s.decisions observationId).head?

/-- Write one binding. -/
def setBinding (key : BindingKey) (b : ProjectSourceBinding) : RoutingState :=
  { s with bindings := Function.update s.bindings key (some b) }

/-- Write one link. -/
def setLink (key : LinkKey) (link : ProjectAssetLink) : RoutingState :=
  { s with links := Function.update s.links key (some link) }

/-- Write one asset. -/
def setAsset (key : String) (asset : RawData) : RoutingState :=
  { s with assets := Function.update s.assets key (some asset) }

/-- Write one sample. -/
def setSample (key : String) (sample : RequestSample) : RoutingState :=
  { s with samples := s.samples.set key sample }

def teachBinding (key : BindingKey) (o : RequestObservation) : RoutingState :=
  let signature := signatureKey o
  if signature == "" then s
  else match s.bindings key with
    | some b => s.setBinding key { b with signatures := sortedSet (b.ruleSet ++ [signature]) }
    | none => s

def unteachBinding (key : BindingKey) (o : RequestObservation) : RoutingState :=
  let signature := signatureKey o
  if signature == "" then s
  else match s.bindings key with
    | some b =>
      if b.active && b.ruleSet.contains signature then
        s.setBinding key { b with signatures := sortedSet (b.ruleSet.filter (· != signature)) }
      else s
    | none => s

/-! ## Sources -/

def ensureDataSource (d : Directory) (sourceType externalId name workspaceId : String) :
    Except PyError (DataSource × RoutingState) :=
  let type := lower (stripped sourceType)
  let external := stripped externalId
  if type == "" || external == "" then .error (.valueError "source_type and external_id are required")
  else match s.dataSources.find? fun source => source.sourceType == type && source.externalId == external with
    | some source =>
      let named := { source with
        name := if name != "" then firstChars name 240 else source.name
        workspaceId := if workspaceId != "" then workspaceId else source.workspaceId }
      .ok (named, { s with dataSources := s.dataSources.map fun x =>
        if x.dataSourceId == source.dataSourceId then named else x })
    | none =>
      let source : DataSource :=
        { dataSourceId := d.identity type external, sourceType := type, externalId := external
          name := firstChars (if name != "" then name else type ++ ":" ++ external) 240, workspaceId := workspaceId }
      if s.dataSources.any (·.dataSourceId == source.dataSourceId) then .error (.other "NotUniqueError")
      else .ok (source, { s with dataSources := s.dataSources ++ [source] })

/-- The external id of an observation whose source is not on record. -/
def externalId : String :=
  if o.workspaceId != "" then o.workspaceId else if o.sourceId != "" then o.sourceId
  else if o.importRunId != "" then o.importRunId else o.observationId

/-- `_source_for_observation`; the observation keeps the source it finds. -/
def sourceForObservation (d : Directory) (o : RequestObservation) :
    Except PyError (DataSource × RoutingState) :=
  match s.dataSources.find? fun source => o.dataSourceId != "" && source.dataSourceId == o.dataSourceId with
  | some source => .ok (source, s)
  | none => do
    let (source, s) ← s.ensureDataSource d o.sourceType (externalId o) (o.sourceType ++ ":" ++ externalId o) o.workspaceId
    return (source, { s with
      observations := s.observations.set o.observationId { o with dataSourceId := source.dataSourceId } })

/-- `ensure_source_binding`, for a source, a project and an environment that are there. -/
def ensureSourceBinding (source : DataSource) (key : BindingKey) : RoutingState :=
  match s.bindings key with
  | some b => if b.active then s else s.setBinding key { b with active := true, disabledBy := "" }
  | none => s.setBinding key
    { sourceType := source.sourceType, sourceId := source.externalId, workspaceId := source.workspaceId }

/-! ## Samples, assets and links -/

def sampleOf : Option RequestSample :=
  if o.sampleId == "" then none else s.samples.get? o.sampleId

def assetOf (sample : RequestSample) : Option (String × RawData) :=
  sample.rawData.bind fun key => (s.assets key).map (key, ·)

/-- Take an observation off a link; the last one leaves `relationship` as the reason. -/
def detachLink (link : ProjectAssetLink) (observationId relationship : String) : ProjectAssetLink :=
  let remaining := link.observationIds.filter (· != observationId)
  if remaining.isEmpty then
    { observationIds := [], relationship := relationship, confidence := 0
      reasonCodes := ["manual_route_" ++ relationship] }
  else { link with observationIds := remaining }

/-- The sample of an asset leaves a project. -/
def releaseSample (sampleId : String) (sample : RequestSample) (projectId : String) : RoutingState :=
  if sample.projectId == projectId then s.setSample sampleId { sample with projectId := "", envId := "" } else s

/-- An asset leaves a project in which it has no sample. -/
def releaseAsset (key : String) (asset : RawData) (projectId : String) : RoutingState :=
  if !(s.samples.items.any fun e => e.2.rawData == some key && e.2.projectId == projectId) &&
      asset.projectId == projectId then
    s.setAsset key { asset with projectId := "", envId := "" }
  else s

def leaveLink (key : LinkKey) (observationId relationship : String) : RoutingState :=
  match s.links key with
  | some link => s.setLink key (detachLink link observationId relationship)
  | none => s

def detachOldAssetLink (projectId envId relationship : String) :
    RoutingState :=
  match s.sampleOf o with
  | none => s
  | some sample => match s.assetOf sample with
    | none => s
    | some (key, asset) =>
      ((s.releaseSample o.sampleId sample projectId).releaseAsset key asset projectId).leaveLink
        ⟨projectId, asset.ptahId, envId⟩ o.observationId relationship

/-- An asset without a project, or of the previous one, goes to the project. -/
def claimAsset (key : String) (loaded : RawData) (importRunId projectId envId previous : String) :
    RoutingState :=
  if loaded.projectId == "" || loaded.projectId == previous then
    match s.assets key with
    | some stored => s.setAsset key { stored with
        projectId := projectId, envId := envId
        importRunId := if importRunId != "" then importRunId else loaded.importRunId }
    | none => s
  else s

/-- `save()` of a document loaded before: a field is written where its value is not the loaded one. -/
def written {α : Type} [DecidableEq α] (loaded stored value : α) : α := if value = loaded then stored else value

/-- The sample, as loaded before the old link was detached, goes to the project. -/
def claimSample (loaded : RequestSample) (projectId envId : String) :
    RoutingState :=
  let stored := (s.samples.get? o.sampleId).getD loaded
  s.setSample o.sampleId { stored with
    projectId := written loaded.projectId stored.projectId projectId
    envId := written loaded.envId stored.envId envId
    importRunId := written loaded.importRunId stored.importRunId
      (if o.importRunId != "" then o.importRunId else loaded.importRunId)
    observationId := written loaded.observationId stored.observationId o.observationId }

def joinLink (key : LinkKey) (observationId : String) : RoutingState :=
  let listed := ((s.links key).map (·.observationIds)).getD []
  s.setLink key
    { relationship := "observed", confidence := 1, reasonCodes := ["manual_project_confirmation"]
      observationIds := if listed.contains observationId then listed else listed ++ [observationId] }

/-- What `_promote_existing_sample` answers. -/
structure Promotion where
  samplePromoted : Bool
  assetLinked : Bool
  pathid : Option Int := none

def promoteExistingSample
    (projectId envId previousProjectId previousEnvId : String) : Promotion × RoutingState :=
  match s.sampleOf o with
  | none => (⟨false, false, none⟩, s)
  | some sample =>
    let asset := s.assetOf sample
    let s := if previousProjectId != "" && previousProjectId != projectId then
      s.detachOldAssetLink o previousProjectId previousEnvId "superseded" else s
    match asset with
    | none => (⟨true, false, none⟩, s.claimSample o sample projectId envId)
    | some (key, loaded) =>
      (⟨true, true, some loaded.ptahId⟩,
        ((s.claimAsset key loaded o.importRunId projectId envId previousProjectId).claimSample o sample projectId
          envId).joinLink ⟨projectId, loaded.ptahId, envId⟩ o.observationId)

/-! ## Manual decisions -/

def appendDecision (observationId : String) (decision : ℕ → RoutingDecision) : RoutingState :=
  { s with
    decisions := Function.update s.decisions observationId (decision s.nextId :: s.decisions observationId)
    nextId := s.nextId + 1 }

end RoutingState

def candidateRows (latest : RoutingDecision) (selectedProjectId reasonCode : String) : List Candidate :=
  let candidates := latest.candidateProjects.map fun item =>
    { item with projectId := firstChars item.projectId 100, reasonCodes := (item.reasonCodes.take 30).map (firstChars · 120) }
  let select (item : Candidate) : Candidate := { item with score := 1, reasonCodes := [reasonCode] }
  match updateOne (fun item => item.projectId == selectedProjectId) select candidates with
  | some rows => rows
  | none => candidates ++ [select ⟨selectedProjectId, 0, []⟩]

/-- The arguments of `assign_observation_project`. -/
structure AssignCall where
  observationId : String
  projectId : String
  envId : String := ""
  expectedDecisionId : Option ℕ := none
  manualBy : String := ""
  teachFuture : Bool := true
  overrideFinal : Bool := false

/-- The arguments of `ignore_observation`. -/
structure IgnoreCall where
  observationId : String
  expectedDecisionId : Option ℕ := none
  manualBy : String := ""
  reason : String := "manual_non_business_traffic"
  overrideFinal : Bool := false

/-- The environment that a call names. -/
def AssignCall.env (call : AssignCall) : String := stripped call.envId

/-- The decision that an assignment appends. -/
def AssignCall.decision (call : AssignCall) (latest : RoutingDecision) (id : ℕ) : RoutingDecision :=
  let reasonCode := if latest.decision = .assigned ∨ latest.decision = .ignored then "manual_project_override"
    else "manual_project_confirmation"
  { id := id, selectedProjectId := call.projectId, selectedEnvId := call.env
    candidateProjects := candidateRows latest call.projectId reasonCode
    confidence := 1, reasonCodes := [reasonCode], decision := .assigned, ruleVersion := "manual-v2"
    manualBy := firstChars call.manualBy 100, taught := call.teachFuture }

def IgnoreCall.decision (call : IgnoreCall) (latest : RoutingDecision) (id : ℕ) : RoutingDecision :=
  { id := id, candidateProjects := latest.candidateProjects, confidence := 1
    reasonCodes := [firstChars (if call.reason != "" then call.reason else "manual_non_business_traffic") 120]
    decision := .ignored, ruleVersion := "manual-v2", manualBy := firstChars call.manualBy 100 }

/-- What the checks of a call come to: the latest decision stays, or a new one is made. -/
inductive Checked where
  | unchanged (latest : RoutingDecision)
  | proceeds (o : RequestObservation) (latest : RoutingDecision)

namespace RoutingState

/-- The checks of `assign_observation_project`. -/
def checkAssign (s : RoutingState) (d : Directory) (call : AssignCall) : Except PyError Checked :=
  match s.observations.get? call.observationId with
  | none => .error (.valueError "routing observation or project is unavailable")
  | some o =>
    if !d.projects.contains call.projectId then
      .error (.valueError "routing observation or project is unavailable")
    else if call.env != "" && !d.environments.contains (call.projectId, call.env) then
      .error (.valueError "selected environment does not belong to the project")
    else match s.latestDecision o.observationId with
      | none => .error (.valueError "routing decision is unavailable")
      | some latest =>
        if call.expectedDecisionId.any (· != latest.id) then
          .error (.valueError "routing decision changed; reload before confirming")
        else if latest.decision = .assigned ∧ latest.selectedProjectId = call.projectId ∧
            latest.selectedEnvId = call.env then .ok (.unchanged latest)
        else if (latest.decision = .assigned ∨ latest.decision = .ignored) ∧ call.overrideFinal = false then
          .error (.valueError "final routing decision requires explicit correction")
        else .ok (.proceeds o latest)

def assignObservationProject (s : RoutingState) (d : Directory) (call : AssignCall) :
    Except PyError ((RoutingDecision × Promotion) × RoutingState) := do
  match ← s.checkAssign d call with
  | .unchanged latest => return ((latest, ⟨false, false, none⟩), s)
  | .proceeds o latest =>
    let (source, s) ← s.sourceForObservation d o
    let s := if latest.decision = .assigned then
      s.unteachBinding ⟨source.dataSourceId, latest.selectedProjectId, latest.selectedEnvId⟩ o else s
    let key : BindingKey := ⟨source.dataSourceId, call.projectId, call.env⟩
    let s := s.ensureSourceBinding source key
    let s := if call.teachFuture then s.teachBinding key o else s
    let made := call.decision latest s.nextId
    let s := s.appendDecision o.observationId (call.decision latest)
    let (promotion, s) := s.promoteExistingSample o call.projectId call.env latest.selectedProjectId latest.selectedEnvId
    return ((made, promotion), s)

/-- The checks of `ignore_observation`. -/
def checkIgnore (s : RoutingState) (call : IgnoreCall) : Except PyError Checked :=
  match s.observations.get? call.observationId, s.latestDecision call.observationId with
  | some o, some latest =>
    if call.expectedDecisionId.any (· != latest.id) then
      .error (.valueError "routing decision changed; reload before confirming")
    else if latest.decision = .ignored then .ok (.unchanged latest)
    else if latest.decision = .assigned ∧ call.overrideFinal = false then
      .error (.valueError "assigned observation requires explicit correction")
    else .ok (.proceeds o latest)
  | _, _ => .error (.valueError "routing observation or decision is unavailable")

def ignoreObservation (s : RoutingState) (d : Directory) (call : IgnoreCall) :
    Except PyError (RoutingDecision × RoutingState) := do
  match ← s.checkIgnore call with
  | .unchanged latest => return (latest, s)
  | .proceeds o latest =>
    let s ← if latest.decision = .assigned then do
        let (source, s) ← s.sourceForObservation d o
        let s := s.unteachBinding ⟨source.dataSourceId, latest.selectedProjectId, latest.selectedEnvId⟩ o
        pure (s.detachOldAssetLink o latest.selectedProjectId latest.selectedEnvId "ignored")
      else pure s
    return (call.decision latest s.nextId, s.appendDecision o.observationId (call.decision latest))

end RoutingState
end ApiManger.Routing
