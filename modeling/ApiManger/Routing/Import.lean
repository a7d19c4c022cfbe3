import ApiManger.Routing.Agreement

/-!
# Importing an observation again

`save_observation` files what an import captured. An observation whose latest decision
is a manual final one keeps that decision; otherwise the automatic decision of an import
is stored once for each rule version. The sample, its asset and the link follow the
decision's project, in the environment of the import.
-/

namespace ApiManger.Routing
open Python Collection Transition

/-! ## Decisions -/

/-- A decision as `save_observation` reads and answers it. -/
structure DecisionView where
  decision : Outcome := .unassigned
  selectedProjectId : String := ""
  selectedEnvId : String := ""
  candidateProjects : List Candidate := []
  confidence : Rat := 0
  reasonCodes : List String := []
  ruleVersion : String := ""

/-- `decision.get("rule_version") or "v1"`. -/
def DecisionView.version (view : DecisionView) : String := if view.ruleVersion == "" then "v1" else view.ruleVersion

/-- `_stored_decision`. -/
def RoutingDecision.view (d : RoutingDecision) : DecisionView where
  decision := d.decision
  selectedProjectId := d.selectedProjectId
  selectedEnvId := d.selectedEnvId
  candidateProjects := d.candidateProjects
  confidence := d.confidence
  reasonCodes := d.reasonCodes
  ruleVersion := if d.ruleVersion == "" then "v1" else d.ruleVersion

/-- `is_manual_final`, of a decision. -/
def RoutingDecision.isManualFinal (d : RoutingDecision) : Bool :=
  startsWith d.ruleVersion "manual-" && (d.decision == .assigned || d.decision == .ignored)

def DecisionView.row (view : DecisionView) (id : ℕ) : RoutingDecision where
  id := id
  selectedProjectId := view.selectedProjectId
  selectedEnvId := view.selectedEnvId
  candidateProjects := view.candidateProjects
  confidence := view.confidence
  reasonCodes := view.reasonCodes
  decision := view.decision
  ruleVersion := view.version

/-! ## The call -/

/-- The arguments of `save_observation`: `observationId` and `abstractSignature` are the digests it makes of them,
`automatic` is the `routing_decision` or what `decide_project` answers, which no operator made, and the sample and the
asset are documents loaded before, with their keys. -/
structure SaveCall where
  observationId : String
  sourceType : String
  sourceId : String := ""
  workspaceId : String := ""
  importRunId : String := ""
  method : String
  abstractSignature : String := ""
  dataSourceId : String := ""
  envId : String := ""
  automatic : DecisionView := {}
  sample : Option (String × RequestSample) := none
  asset : Option (String × RawData) := none
  unmanual : startsWith automatic.version "manual-" = false := by decide

/-- The external id of an import whose source is not named. -/
def SaveCall.externalId (call : SaveCall) : String :=
  if call.workspaceId != "" then call.workspaceId else if call.sourceId != "" then call.sourceId
  else if call.importRunId != "" then call.importRunId else "unknown"

/-- The observation of a first import. -/
def SaveCall.observation (call : SaveCall) (source : DataSource) : RequestObservation where
  observationId := call.observationId
  dataSourceId := source.dataSourceId
  sourceType := call.sourceType
  sourceId := call.sourceId
  workspaceId := call.workspaceId
  importRunId := call.importRunId
  method := upper call.method
  abstractSignature := call.abstractSignature
  sampleId := (call.sample.map (·.1)).getD ""

namespace RoutingState

def sourceOfImport (s : RoutingState) (d : Directory) (call : SaveCall) : Except PyError (DataSource × RoutingState) :=
  match s.dataSources.find? fun source => call.dataSourceId != "" && source.dataSourceId == call.dataSourceId with
  | some source => .ok (source, s)
  | none => s.ensureDataSource d call.sourceType call.externalId (call.sourceType ++ ":" ++ call.externalId)
      call.workspaceId

/-- The observation is on record. -/
def keepObservation (s : RoutingState) (call : SaveCall) (source : DataSource) : RoutingState :=
  match s.observations.get? call.observationId with
  | some _ => s
  | none => { s with observations := s.observations.set call.observationId (call.observation source) }

/-- The automatic decision is stored once for each rule version. -/
def storeAutomatic (s : RoutingState) (call : SaveCall) : DecisionView × RoutingState :=
  match (s.decisions call.observationId).reverse.find? (·.ruleVersion == call.automatic.version) with
  | some stored => (stored.view, s)
  | none => (call.automatic, s.appendDecision call.observationId call.automatic.row)

/-- The decision of the import, and the state with it on record. -/
def decideImport (s : RoutingState) (call : SaveCall) : DecisionView × RoutingState :=
  match s.latestDecision call.observationId with
  | some latest => if latest.isManualFinal then (latest.view, s) else s.storeAutomatic call
  | none => s.storeAutomatic call

/-- An asset without a project goes to the project of the import. -/
def fileAsset (s : RoutingState) (key : String) (loaded : RawData) (projectId envId importRunId : String) :
    RoutingState :=
  if loaded.projectId == "" then match s.assets key with
    | some stored =>
      s.setAsset key { stored with projectId := projectId, envId := envId, importRunId := importRunId }
    | none => s
  else s

def observeLink (s : RoutingState) (key : LinkKey) (decision : DecisionView) (observationId : String) : RoutingState :=
  let listed := ((s.links key).map (·.observationIds)).getD []
  s.setLink key
    { relationship := "observed", confidence := decision.confidence, reasonCodes := decision.reasonCodes
      observationIds := if listed.contains observationId then listed else listed ++ [observationId] }

/-- A sample goes to the project and the environment of the import. -/
def fileSample (s : RoutingState) (key : String) (loaded : RequestSample)
    (projectId envId importRunId observationId : String) : RoutingState :=
  let stored := (s.samples.get? key).getD loaded
  s.setSample key { stored with
    projectId := written loaded.projectId stored.projectId projectId
    envId := written loaded.envId stored.envId envId
    importRunId := written loaded.importRunId stored.importRunId importRunId
    observationId := written loaded.observationId stored.observationId observationId }

/-- What an import files under the project of its decision. -/
def fileImport (s : RoutingState) (call : SaveCall) (decision : DecisionView) : RoutingState :=
  if decision.selectedProjectId == "" then s
  else match call.asset with
    | none => s
    | some (key, loaded) =>
      let s := (s.fileAsset key loaded decision.selectedProjectId call.envId call.importRunId).observeLink
        ⟨decision.selectedProjectId, loaded.ptahId, call.envId⟩ decision call.observationId
      match call.sample with
      | none => s
      | some (key, loaded) =>
        s.fileSample key loaded decision.selectedProjectId call.envId call.importRunId call.observationId

def saveObservation (s : RoutingState) (d : Directory) (call : SaveCall) : Except PyError (DecisionView × RoutingState) := do
  let (source, s) ← s.sourceOfImport d call
  let (decision, s) := (s.keepObservation call source).decideImport call
  return (decision, s.fileImport call decision)

end RoutingState

/-! ## Runs -/

/-- A manual decision, or an import. -/
inductive RoutingCall where
  | manual (call : Call)
  | save (call : SaveCall)

/-- A call that raises leaves the store as it is. -/
def routing (d : Directory) : System RoutingState RoutingCall where
  step
    | s, .manual call => (manualRouting d).step s call
    | s, .save call => match s.saveObservation d call with
      | .ok (_, s') => some s'
      | .error _ => some s

namespace RoutingState

def latestManual (s : RoutingState) (id : String) : Option RoutingDecision := (s.decisions id).find? (·.isManualFinal)

/-- A manual final decision is followed by manual final ones only, and one that ignores selects no project. -/
structure ManualLast (s : RoutingState) : Prop where
  latest : ∀ id m, s.latestManual id = some m → s.latestDecision id = some m
  unselected : ∀ id, ∀ m ∈ s.decisions id, m.isManualFinal = true → m.decision = .ignored → m.selectedProjectId = ""

/-- The sample is filed under a project and an environment. -/
def FiledAt (s : RoutingState) (key projectId envId : String) : Prop :=
  ∃ sample, s.samples.get? key = some sample ∧ sample.projectId = projectId ∧ sample.envId = envId

end RoutingState

/-- What an import leaves of a manual assignment: it is the effective decision, samples that are filed under it stay
there, and no link of another project or environment lists an observation that it did not list. -/
structure KeepsAssignment (s s' : RoutingState) (id : String) (m : RoutingDecision) (effective : DecisionView) :
    Prop where
  latest : s'.latestDecision id = some m
  effective : effective = m.view
  samples : ∀ key, s.FiledAt key m.selectedProjectId m.selectedEnvId →
    s'.FiledAt key m.selectedProjectId m.selectedEnvId
  links : ∀ key, s'.Lists key id → s.Lists key id ∨ (key.projectId = m.selectedProjectId ∧ key.envId = m.selectedEnvId)

/-- What an import leaves of an observation that is ignored. -/
structure KeepsIgnored (s s' : RoutingState) (id : String) (m : RoutingDecision) (effective : DecisionView) :
    Prop where
  latest : s'.latestDecision id = some m
  effective : effective = m.view
  samples : s'.samples = s.samples
  assets : s'.assets = s.assets
  links : s'.links = s.links

/-- An import of an observation keeps its latest manual decision. -/
structure KeepsManual (s : RoutingState) (d : Directory) (call : SaveCall) : Prop where
  assigned : ∀ m effective s', s.latestManual call.observationId = some m → m.decision = .assigned →
    s.saveObservation d call = .ok (effective, s') → KeepsAssignment s s' call.observationId m effective
  ignored : ∀ m effective s', s.latestManual call.observationId = some m → m.decision = .ignored →
    s.saveObservation d call = .ok (effective, s') → KeepsIgnored s s' call.observationId m effective

/-! ## Decisions stay -/

namespace RoutingState
variable {s s' : RoutingState} {d : Directory} {call : SaveCall} {m : RoutingDecision}

variable {source : DataSource} {envId : String}

theorem ensureDataSource_only {type external name workspace : String}
    (ensured : s.ensureDataSource d type external name workspace = .ok (source, s')) :
    s' = { s with dataSources := s'.dataSources } := by
  unfold ensureDataSource at ensured
  dsimp only at ensured
  obtain ⟨-, ensured⟩ := raised_or ensured
  split at ensured
  · obtain ⟨-, rfl⟩ := Prod.mk.inj (Except.ok.inj ensured)
    rfl
  · obtain ⟨-, ensured⟩ := raised_or ensured
    obtain ⟨-, rfl⟩ := Prod.mk.inj (Except.ok.inj ensured)
    rfl

theorem sourceForObservation_decisions {o : RequestObservation}
    (found : s.sourceForObservation d o = .ok (source, s')) : s'.decisions = s.decisions := by
  unfold sourceForObservation at found
  split at found
  · obtain ⟨-, rfl⟩ := Prod.mk.inj (Except.ok.inj found)
    rfl
  · obtain ⟨⟨source', s₁⟩, ensured, found⟩ := bind_eq_ok.mp found
    obtain ⟨-, rfl⟩ := Prod.mk.inj (Except.ok.inj found)
    rw [ensureDataSource_only ensured]

/-- The decisions of an observation are those before, or one manual final decision more. -/
def ManualAppended (s s' : RoutingState) : Prop :=
  s'.decisions = s.decisions ∨ ∃ id made, made.isManualFinal = true ∧
    (made.decision = .ignored → made.selectedProjectId = "") ∧ s'.decisions = Function.update s.decisions id (made :: s.decisions id)

theorem isManualFinal_of {made : RoutingDecision} (version : made.ruleVersion = "manual-v2")
    (final : made.decision = .assigned ∨ made.decision = .ignored) : made.isManualFinal = true := by
  have manual : startsWith "manual-v2" "manual-" = true := by decide
  unfold RoutingDecision.isManualFinal
  rw [version, manual, Bool.true_and, Bool.or_eq_true, beq_iff_eq, beq_iff_eq]
  exact final

theorem ManualLast.congr (last : s.ManualLast) (same : s'.decisions = s.decisions) : s'.ManualLast := by
  constructor
  · unfold latestManual latestDecision
    rw [same]
    exact last.latest
  · rw [same]
    exact last.unselected

theorem ManualAppended.manualLast (appended : ManualAppended s s') (last : s.ManualLast) : s'.ManualLast := by
  rcases appended with same | ⟨id', made, final, unselected, same⟩
  · exact last.congr same
  · constructor
    · intro id m manual
      unfold latestManual at manual
      unfold latestDecision
      rw [same, Function.update_apply] at manual ⊢
      split at manual
      · next here =>
        rw [List.find?_cons_of_pos (by exact final)] at manual
        rw [if_pos here]
        exact manual
      · next other =>
        rw [if_neg other]
        exact last.latest id m manual
    · intro id m mem
      rw [same, Function.update_apply] at mem
      split at mem
      · rcases List.mem_cons.mp mem with rfl | mem
        · exact fun _ => unselected
        · exact last.unselected id' m mem
      · exact last.unselected id m mem

theorem appendDecision_appended {left : RoutingState} {id : String} {decision : ℕ → RoutingDecision}
    (same : left.decisions = s.decisions) (final : (decision left.nextId).isManualFinal = true)
    (unselected : (decision left.nextId).decision = .ignored → (decision left.nextId).selectedProjectId = "") :
    ManualAppended s (left.appendDecision id decision) := by
  refine .inr ⟨id, decision left.nextId, final, unselected, ?_⟩
  show Function.update left.decisions _ (_ :: left.decisions id) = _
  rw [same]

theorem assign_appended {call : AssignCall} {result : RoutingDecision × Promotion}
    (assigned : s.assignObservationProject d call = .ok (result, s')) : ManualAppended s s' := by
  rcases assignObservationProject_ok assigned with rfl | ⟨o, latest, source, found, -, sourced, rfl⟩
  · exact .inl rfl
  · have bound : (found.rebound o latest source call).decisions = s.decisions :=
      rebound_only.decisions.trans (sourceForObservation_decisions sourced)
    have promoted := (promoteExistingSample_spec (s := (found.rebound o latest source call).appendDecision
      o.observationId (call.decision latest)) (o := o) call.projectId call.env latest.selectedProjectId
      latest.selectedEnvId).1.decisions
    have appended : ManualAppended s ((found.rebound o latest source call).appendDecision o.observationId
        (call.decision latest)) := appendDecision_appended bound (isManualFinal_of rfl (.inl rfl)) nofun
    unfold ManualAppended at appended ⊢
    rw [promoted]
    exact appended

theorem ignore_appended {call : IgnoreCall} {result : RoutingDecision}
    (ignored : s.ignoreObservation d call = .ok (result, s')) : ManualAppended s s' := by
  rcases ignoreObservation_ok ignored with rfl | ⟨o, latest, -, ⟨-, rfl⟩ | ⟨-, source, found, sourced, rfl⟩⟩
  · exact .inl rfl
  · exact appendDecision_appended rfl (isManualFinal_of rfl (.inr rfl)) fun _ => rfl
  · refine appendDecision_appended ?_ (isManualFinal_of rfl (.inr rfl)) fun _ => rfl
    exact (detachOldAssetLink_spec _ _ _).1.decisions.trans
      (unlearned_only.decisions.trans (sourceForObservation_decisions sourced))

/-! ### Imports -/

theorem sourceOfImport_only (found : s.sourceOfImport d call = .ok (source, s')) :
    s' = { s with dataSources := s'.dataSources } := by
  unfold sourceOfImport at found
  split at found
  · obtain ⟨-, rfl⟩ := Prod.mk.inj (Except.ok.inj found)
    rfl
  · exact ensureDataSource_only found

theorem keepObservation_only (s : RoutingState) (call : SaveCall) (source : DataSource) :
    ∃ observations, s.keepObservation call source = { s with observations := observations } := by
  unfold keepObservation
  split
  · exact ⟨s.observations, rfl⟩
  · exact ⟨_, rfl⟩

/-- What an import is made of: nothing but sources and observations changes before its decision. -/
theorem saveObservation_ok {effective : DecisionView} (saved : s.saveObservation d call = .ok (effective, s')) :
    ∃ kept : RoutingState, kept.decisions = s.decisions ∧ kept.links = s.links ∧ kept.samples = s.samples ∧
      kept.assets = s.assets ∧ effective = (kept.decideImport call).1 ∧
      s' = (kept.decideImport call).2.fileImport call effective := by
  unfold saveObservation at saved
  obtain ⟨⟨source, found⟩, finds, saved⟩ := bind_eq_ok.mp saved
  obtain ⟨rfl, rfl⟩ := Prod.mk.inj (Except.ok.inj saved)
  obtain ⟨observations, kept⟩ := keepObservation_only found call source
  have only := sourceOfImport_only finds
  refine ⟨found.keepObservation call source, ?_, ?_, ?_, ?_, rfl, rfl⟩
  all_goals rw [kept, only]

theorem fileImport_decisions (s : RoutingState) (call : SaveCall) (decision : DecisionView) :
    (s.fileImport call decision).decisions = s.decisions := by
  unfold fileImport
  split
  · rfl
  · split
    · rfl
    · next key loaded _ =>
      have asset (s : RoutingState) (projectId : String) :
          (s.fileAsset key loaded projectId call.envId call.importRunId).decisions = s.decisions := by
        unfold fileAsset
        split
        · split <;> rfl
        · rfl
      dsimp only
      split <;> exact asset _ _

theorem decideImport_manual (latest : s.latestDecision call.observationId = some m) (final : m.isManualFinal = true) :
    s.decideImport call = (m.view, s) := by
  unfold decideImport
  rw [latest]
  dsimp only
  rw [if_pos final]

theorem automatic_not_manual (call : SaveCall) (id : ℕ) : (call.automatic.row id).isManualFinal = false := by
  unfold RoutingDecision.isManualFinal
  rw [show (call.automatic.row id).ruleVersion = call.automatic.version from rfl, call.unmanual, Bool.false_and]

/-- An automatic decision is appended only where there is no manual final one. -/
theorem decideImport_manualLast (last : s.ManualLast) : (s.decideImport call).2.ManualLast := by
  have automatic (none_manual : s.latestManual call.observationId = none) : (s.storeAutomatic call).2.ManualLast := by
    unfold storeAutomatic
    split
    · exact last
    have unmanual := automatic_not_manual call s.nextId
    constructor
    · intro id m manual
      unfold latestManual appendDecision at manual
      unfold latestDecision appendDecision
      simp only [Function.update_apply] at manual ⊢
      by_cases here : id = call.observationId
      · rw [if_pos here, List.find?_cons_of_neg (by rw [unmanual]; exact Bool.false_ne_true)] at manual
        unfold latestManual at none_manual
        rw [none_manual] at manual
        nomatch manual
      · rw [if_neg here] at manual ⊢
        exact last.latest id m manual
    · intro id m mem final
      unfold appendDecision at mem
      simp only [Function.update_apply] at mem
      split at mem
      · rcases List.mem_cons.mp mem with rfl | mem
        · rw [unmanual] at final
          nomatch final
        · exact last.unselected _ m mem final
      · exact last.unselected id m mem final
  have no_manual (latest : ∀ m, s.latestDecision call.observationId = some m → ¬ m.isManualFinal = true) :
      s.latestManual call.observationId = none := by
    refine Option.eq_none_iff_forall_ne_some.mpr fun m manual => ?_
    exact latest m (last.latest _ m manual) (List.find?_some (p := fun d : RoutingDecision => d.isManualFinal) manual)
  unfold decideImport
  split
  · next latest found =>
    split
    · exact last
    · next open_ =>
      refine automatic (no_manual fun m same => ?_)
      rw [found, Option.some.injEq] at same
      rw [← same]
      exact open_
  · next empty =>
    refine automatic (no_manual fun m same => ?_)
    rw [empty] at same
    nomatch same

/-- An import leaves manual final decisions the last ones. -/
theorem saveObservation_manualLast {effective : DecisionView} (last : s.ManualLast)
    (saved : s.saveObservation d call = .ok (effective, s')) : s'.ManualLast := by
  obtain ⟨kept, decisions, -, -, -, -, rfl⟩ := saveObservation_ok saved
  exact (decideImport_manualLast (last.congr decisions)).congr (fileImport_decisions _ _ _)

/-! ### Filing -/

theorem fileAsset_links {key projectId importRunId : String} {loaded : RawData} :
    (s.fileAsset key loaded projectId envId importRunId).links = s.links := by
  unfold fileAsset
  split
  · split <;> rfl
  · rfl

theorem fileAsset_samples {key projectId importRunId : String} {loaded : RawData} :
    (s.fileAsset key loaded projectId envId importRunId).samples = s.samples := by
  unfold fileAsset
  split
  · split <;> rfl
  · rfl

theorem written_same {α : Type} [DecidableEq α] (loaded value : α) : written loaded value value = value := by
  unfold written
  split <;> rfl

/-- A sample that is filed under a project and an environment stays there when samples are filed there. -/
theorem fileSample_filedAt {key key' projectId importRunId id : String} {loaded : RequestSample}
    (filed : s.FiledAt key' projectId envId) :
    (s.fileSample key loaded projectId envId importRunId id).FiledAt key' projectId envId := by
  obtain ⟨sample, found, project, env⟩ := filed
  unfold fileSample setSample FiledAt
  simp only [Mapping.get?_set]
  by_cases here : key = key'
  · subst here
    refine ⟨_, if_pos rfl, ?_, ?_⟩
    · rw [found, Option.getD_some, project]
      exact written_same _ _
    · rw [found, Option.getD_some, env]
      exact written_same _ _
  · exact ⟨sample, by rw [if_neg here, found], project, env⟩

theorem fileImport_none {decision : DecisionView} (unselected : decision.selectedProjectId = "") :
    s.fileImport call decision = s := by
  unfold fileImport
  rw [if_pos (beq_iff_eq.mpr unselected)]

/-- An import into the environment of its decision files there only. -/
theorem fileImport_keeps {decision : DecisionView}
    (inside : call.asset.isSome = true → call.envId = envId) :
    (∀ key, s.FiledAt key decision.selectedProjectId envId →
      (s.fileImport call decision).FiledAt key decision.selectedProjectId envId) ∧
    ∀ key, (s.fileImport call decision).Lists key call.observationId → s.Lists key call.observationId ∨
      (key.projectId = decision.selectedProjectId ∧ key.envId = envId) := by
  unfold fileImport
  split
  · exact ⟨fun _ filed => filed, fun _ lists => .inl lists⟩
  · split
    · exact ⟨fun _ filed => filed, fun _ lists => .inl lists⟩
    · next assetKey asset given =>
      have same := inside (by rw [given]; rfl)
      subst same
      have observed (key : LinkKey) (lists : ((s.fileAsset assetKey asset decision.selectedProjectId call.envId
          call.importRunId).observeLink ⟨decision.selectedProjectId, asset.ptahId, call.envId⟩ decision
          call.observationId).Lists key call.observationId) : s.Lists key call.observationId ∨
          (key.projectId = decision.selectedProjectId ∧ key.envId = call.envId) := by
        rcases setLink_joined rfl lists with lists | ⟨rfl, -⟩
        · exact .inl (lists_of_links fileAsset_links lists)
        · exact .inr ⟨rfl, rfl⟩
      have kept (key : String) (filed : s.FiledAt key decision.selectedProjectId call.envId) :
          ((s.fileAsset assetKey asset decision.selectedProjectId call.envId call.importRunId).observeLink
            ⟨decision.selectedProjectId, asset.ptahId, call.envId⟩ decision call.observationId).FiledAt key
            decision.selectedProjectId call.envId := by
        obtain ⟨sample, found, filed⟩ := filed
        exact ⟨sample, (congrArg (·.get? key) fileAsset_samples).trans found, filed⟩
      dsimp only
      split
      · exact ⟨kept, observed⟩
      · next sampleKey sample _ =>
        exact ⟨fun key filed => fileSample_filedAt (kept key filed), fun key lists => observed key lists⟩

/-- What an import keeps of the latest manual decision. -/
theorem saveObservation_keeps (last : s.ManualLast)
    (inside : ∀ m, s.latestManual call.observationId = some m → m.decision = .assigned →
      call.asset.isSome = true → call.envId = m.selectedEnvId) : KeepsManual s d call := by
  have kept (m : RoutingDecision) (effective : DecisionView) (s' : RoutingState)
      (manual : s.latestManual call.observationId = some m) (saved : s.saveObservation d call = .ok (effective, s')) :
      ∃ kept : RoutingState, kept.links = s.links ∧ kept.samples = s.samples ∧ kept.assets = s.assets ∧
        kept.latestDecision call.observationId = some m ∧ effective = m.view ∧ s' = kept.fileImport call m.view := by
    obtain ⟨kept, decisions, links, samples, assets, rfl, rfl⟩ := saveObservation_ok saved
    have latest : kept.latestDecision call.observationId = some m := by
      unfold latestDecision
      rw [decisions]
      exact last.latest _ m manual
    have final : m.isManualFinal = true := List.find?_some (p := fun d : RoutingDecision => d.isManualFinal) manual
    rw [decideImport_manual latest final]
    exact ⟨kept, links, samples, assets, latest, rfl, rfl⟩
  constructor
  · intro m effective s' manual assigned saved
    obtain ⟨kept, links, samples, -, latest, is, rfl⟩ := kept m effective s' manual saved
    obtain ⟨stays, joins⟩ : (∀ key, kept.FiledAt key m.view.selectedProjectId m.selectedEnvId →
        (kept.fileImport call m.view).FiledAt key m.view.selectedProjectId m.selectedEnvId) ∧
        ∀ key, (kept.fileImport call m.view).Lists key call.observationId → kept.Lists key call.observationId ∨
          (key.projectId = m.view.selectedProjectId ∧ key.envId = m.selectedEnvId) :=
      fileImport_keeps (inside m manual assigned)
    refine ⟨?_, is, fun key filed => stays key ?_, fun key lists => ?_⟩
    · unfold latestDecision
      rw [fileImport_decisions]
      exact latest
    · unfold FiledAt
      rw [samples]
      exact filed
    · exact (joins key lists).imp_left (lists_of_links links)
  · intro m effective s' manual ignored saved
    obtain ⟨kept, links, samples, assets, latest, is, rfl⟩ := kept m effective s' manual saved
    have final : m.isManualFinal = true := List.find?_some (p := fun d : RoutingDecision => d.isManualFinal) manual
    have unselected := last.unselected _ m (List.mem_of_find?_eq_some manual) final ignored
    have view_unselected : m.view.selectedProjectId = "" := unselected
    rw [fileImport_none view_unselected]
    exact ⟨latest, is, samples, assets, links⟩

end RoutingState

/-- An import with an asset, of an observation that was assigned manually, is into the environment it was assigned to. -/
def keepsEnvironment : Admits RoutingState RoutingCall
  | s, .save call => !call.asset.isSome || (s.latestManual call.observationId).all fun m =>
      m.decision != .assigned || call.envId == m.selectedEnvId
  | _, .manual _ => true

variable {d : Directory} {s s' : RoutingState} {calls : List RoutingCall}

theorem routing_manualLast {call : RoutingCall} (last : s.ManualLast) (step : (routing d).step s call = some s') :
    s'.ManualLast := by
  cases call with
  | manual call =>
    cases call with
    | assign call =>
      simp only [routing, manualRouting] at step
      split at step
      · next assigned =>
        obtain rfl := Option.some.inj step
        exact (RoutingState.assign_appended assigned).manualLast last
      · obtain rfl := Option.some.inj step
        exact last
    | ignore call =>
      simp only [routing, manualRouting] at step
      split at step
      · next ignored =>
        obtain rfl := Option.some.inj step
        exact (RoutingState.ignore_appended ignored).manualLast last
      · obtain rfl := Option.some.inj step
        exact last
  | save call =>
    simp only [routing] at step
    split at step
    · next saved =>
      obtain rfl := Option.some.inj step
      exact RoutingState.saveObservation_manualLast last saved
    · obtain rfl := Option.some.inj step
      exact last

/-- **Manual decisions survive imports.** Of any sequence of manual decisions and imports, where each import of an
assigned observation with its asset is into the environment it was assigned to, every import keeps the latest manual
decision of its observation. -/
theorem manual_decisions_survive (last : s.ManualLast) (run : (routing d).run keepsEnvironment s calls = some s')
    {before after : List RoutingCall} {call : SaveCall} (here : calls = before ++ .save call :: after) :
    ∃ at_, (routing d).run keepsEnvironment s before = some at_ ∧ KeepsManual at_ d call := by
  rw [here] at run
  obtain ⟨at_, front, back⟩ := System.run_append.mp run
  have last_there : at_.ManualLast := System.invariant last (fun _ _ _ last _ step => routing_manualLast last step) front
  obtain ⟨admitted, -⟩ := System.run_cons.mp back
  refine ⟨at_, front, RoutingState.saveObservation_keeps last_there fun m manual assigned given => ?_⟩
  simp only [keepsEnvironment, given, manual, assigned, Bool.not_true, Bool.false_or, Option.all_some, bne_self_eq_false,
    beq_iff_eq] at admitted
  exact admitted

/-! ## An import into another environment -/

/-- The observation again, with its sample and its asset, from an environment. -/
def importAgain (envId : String) : SaveCall where
  observationId := "o1"
  sourceType := "har"
  sourceId := "s"
  method := "GET"
  abstractSignature := "/orders"
  envId := envId
  sample := some ("sample", { rawData := some "asset" })
  asset := some ("asset", { ptahId := 7 })

theorem imported_manualLast : imported.ManualLast := by
  have unmanual (id : String) : ∀ m ∈ imported.decisions id, m.isManualFinal = false := by
    intro m mem
    unfold imported at mem
    dsimp only at mem
    split at mem
    · rw [List.mem_singleton.mp mem]
      decide
    · exact absurd mem List.not_mem_nil
  constructor
  · intro id m manual
    have final := List.find?_some (p := fun d : RoutingDecision => d.isManualFinal) manual
    rw [unmanual id m (List.mem_of_find?_eq_some manual)] at final
    nomatch final
  · intro id m mem final
    rw [unmanual id m mem] at final
    nomatch final

/-- An observation that was assigned to an environment keeps its decision when it is imported from there again. -/
theorem manual_decisions_survive_here : ∃ s', (routing twoEnvironments).run keepsEnvironment imported
    [.manual (.assign { observationId := "o1", projectId := "shop", envId := "test" })] = some s' ∧
      KeepsManual s' twoEnvironments (importAgain "test") := by
  obtain ⟨s', run, -⟩ := System.exists_of_run (M := routing twoEnvironments) (g := keepsEnvironment) (s := imported)
    (l := [.manual (.assign { observationId := "o1", projectId := "shop", envId := "test" }), .save (importAgain "test")])
    (P := fun _ => true) (by decide +kernel)
  have here : [RoutingCall.manual (.assign { observationId := "o1", projectId := "shop", envId := "test" }),
      .save (importAgain "test")] = [.manual (.assign { observationId := "o1", projectId := "shop", envId := "test" })] ++
        .save (importAgain "test") :: [] := rfl
  exact manual_decisions_survive imported_manualLast run here

/-- When it is imported from the other environment, the link of that one lists it. -/
theorem manual_decision_leaks : ¬ ∀ (d : Directory) (s s' : RoutingState) (calls : List RoutingCall) (call : SaveCall),
    s.ManualLast → (routing d).run (free RoutingState RoutingCall) s calls = some s' → KeepsManual s' d call := by
  intro keeps
  obtain ⟨s', run, holds⟩ := System.exists_of_run (M := routing twoEnvironments) (g := free RoutingState RoutingCall)
    (s := imported) (l := [.manual (.assign { observationId := "o1", projectId := "shop", envId := "test" })])
    (P := fun s => (s.latestManual "o1").any (fun m => m.decision == .assigned && m.selectedEnvId == "test") &&
      (s.links ⟨"shop", 7, "prod"⟩).isNone && match s.saveObservation twoEnvironments (importAgain "prod") with
        | .ok (_, s') => (s'.links ⟨"shop", 7, "prod"⟩).any (·.observationIds.contains "o1")
        | .error _ => false) (by decide +kernel)
  simp only [Bool.and_eq_true, Option.any_eq_true, beq_iff_eq, Option.isNone_iff_eq_none] at holds
  obtain ⟨⟨⟨m, manual, assigned, env⟩, unlinked⟩, linked⟩ := holds
  split at linked
  · next effective after saved =>
    obtain ⟨link, found, listed⟩ := (Option.any_eq_true _ _).mp linked
    have kept := (keeps _ _ _ _ (importAgain "prod") imported_manualLast run).assigned m _ _ manual assigned saved
    rcases kept.links ⟨"shop", 7, "prod"⟩ ⟨link, found, List.contains_iff_mem.mp listed⟩ with ⟨old, there, -⟩ | ⟨-, same⟩
    · rw [unlinked] at there
      nomatch there
    · rw [env] at same
      exact absurd same (by decide)
  · nomatch linked

end ApiManger.Routing
