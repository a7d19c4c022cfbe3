import ApiManger.Routing.Effects
import ApiManger.Transition.System

/-!
# Links and rules agree with the decisions

Links and taught signatures are kept up to date one observation at a time. They agree
with the latest decisions as long as no observation moves between two environments of
one project, no signature is unlearned that another observation has taught there, and
no disabled binding comes back with rules of its own.
-/

namespace ApiManger.Routing
open Python Collection Transition

/-! ## Agreement -/

/-- The project and the environment that a decision selects. -/
def RoutingDecision.selects (d : RoutingDecision) : Option (String × String) :=
  if d.decision = .assigned then some (d.selectedProjectId, d.selectedEnvId) else none

namespace RoutingState

/-- The observation is assigned to the binding at the key, by a call that taught it. -/
def TaughtAt (s : RoutingState) (id : String) (o : RequestObservation) (key : BindingKey) : Prop :=
  s.observations.get? id = some o ∧ ∃ d, s.latestDecision id = some d ∧ d.decision = .assigned ∧ d.taught = true ∧
    key = ⟨o.dataSourceId, d.selectedProjectId, d.selectedEnvId⟩

/-- An observation whose sample has an asset is listed only where its latest decision puts it, and an active
binding has the signatures that are taught there. -/
structure Agrees (s : RoutingState) : Prop where
  links : ∀ id o pathid, s.observations.get? id = some o → s.assetPath o = some pathid →
    ∀ key, s.Lists key id → (s.latestDecision id).bind (·.selects) = some (key.projectId, key.envId)
  rules : ∀ key b, s.bindings key = some b → b.active = true → ∀ signature, signature ≠ "" →
    (signature ∈ b.signatures ↔ ∃ id o, s.TaughtAt id o key ∧ signatureKey o = signature)

/-- What holds between any two calls. -/
structure Consistent (s : RoutingState) : Prop extends Agrees s where
  named : ∀ id o, s.observations.get? id = some o → o.observationId = id
  placed : ∀ id o pathid, s.observations.get? id = some o → s.assetPath o = some pathid →
    ∀ key, s.Lists key id → key.pathid = pathid
  selected : ∀ id d, s.latestDecision id = some d → d.decision = .assigned → d.selectedProjectId ≠ ""
  bound : ∀ id o key, s.TaughtAt id o key → s.bindings key ≠ none
  sourced : ∀ id o key, s.TaughtAt id o key → ∃ x ∈ s.dataSources, x.dataSourceId = o.dataSourceId
  sources : ∀ x ∈ s.dataSources, x.dataSourceId ≠ ""

/-! ## The condition -/

/-- Whether the observation is assigned to the binding at the key, by a call that taught it. -/
def taughtAt (s : RoutingState) (e : String × RequestObservation) (key : BindingKey) : Bool :=
  (s.latestDecision e.1).any fun d => d.decision == .assigned && d.taught &&
    key == ⟨e.2.dataSourceId, d.selectedProjectId, d.selectedEnvId⟩

/-- The observation moves to another environment of its project, and the link of the old one lists it. -/
def movesWithin (s : RoutingState) (o : RequestObservation) (latest : RoutingDecision) (projectId : String) : Bool :=
  latest.decision == .assigned && latest.selectedProjectId == projectId && (s.assetPath o).any fun pathid =>
    (s.links ⟨projectId, pathid, latest.selectedEnvId⟩).any (·.observationIds.contains o.observationId)

/-- The active binding that the observation leaves has its signature from another observation as well. -/
def sharesSignature (s : RoutingState) (o : RequestObservation) (latest : RoutingDecision) (source : DataSource) : Bool :=
  let key : BindingKey := ⟨source.dataSourceId, latest.selectedProjectId, latest.selectedEnvId⟩
  latest.decision == .assigned && (s.bindings key).any (·.active) && s.observations.items.any fun e =>
    e.1 != o.observationId && s.taughtAt e key && signatureKey e.2 != "" && signatureKey e.2 == signatureKey o

/-- The binding at the key is disabled, and has not the signatures that are taught there. -/
def reopens (s : RoutingState) (key : BindingKey) : Bool :=
  (s.bindings key).any fun b => !b.active &&
    !((b.ruleSet.all fun signature => s.observations.items.any fun e => s.taughtAt e key && signatureKey e.2 == signature) &&
      s.observations.items.all fun e => !s.taughtAt e key || signatureKey e.2 == "" || b.signatures.contains (signatureKey e.2))

end RoutingState

/-- One manual decision. -/
inductive Call where
  | assign (call : AssignCall)
  | ignore (call : IgnoreCall)

/-- A call that raises leaves the store as it is. -/
def manualRouting (d : Directory) : System RoutingState Call where
  step
    | s, .assign call => match s.assignObservationProject d call with
      | .ok (_, s') => some s'
      | .error _ => some s
    | s, .ignore call => match s.ignoreObservation d call with
      | .ok (_, s') => some s'
      | .error _ => some s

/-- What a call that makes a new decision must not come upon. -/
def agreeable (d : Directory) : Admits RoutingState Call
  | s, .assign call => match s.checkAssign d call with
    | .ok (.proceeds o latest) => match s.sourceForObservation d o with
      | .ok (source, _) => !s.movesWithin o latest call.projectId && !s.sharesSignature o latest source &&
        !s.reopens ⟨source.dataSourceId, call.projectId, call.env⟩
      | .error _ => true
    | _ => true
  | s, .ignore call => match s.checkIgnore call with
    | .ok (.proceeds o latest) => match s.sourceForObservation d o with
      | .ok (source, _) => !s.sharesSignature o latest source
      | .error _ => true
    | _ => true

/-! ## Sources -/

namespace RoutingState
variable {s s' : RoutingState} {d : Directory} {o : RequestObservation} {source : DataSource}

/-- What finding the source of an observation does. -/
structure SourceFound (s s' : RoutingState) (o : RequestObservation) (source : DataSource) : Prop where
  decisions : s'.decisions = s.decisions
  bindings : s'.bindings = s.bindings
  links : s'.links = s.links
  samples : s'.samples = s.samples
  assets : s'.assets = s.assets
  observations : ∀ id, s'.observations.get? id =
    if o.observationId = id then some { o with dataSourceId := source.dataSourceId } else s.observations.get? id
  known : (∃ x ∈ s.dataSources, x.dataSourceId = o.dataSourceId) → source.dataSourceId = o.dataSourceId
  sources : ∀ x ∈ s.dataSources, ∃ y ∈ s'.dataSources, y.dataSourceId = x.dataSourceId
  there : ∃ y ∈ s'.dataSources, y.dataSourceId = source.dataSourceId
  identified : ∀ y ∈ s'.dataSources, y.dataSourceId ≠ ""

/-- Ensuring a source writes sources only. -/
theorem ensureDataSource_spec {type external name workspace : String} (unnamed : ∀ x ∈ s.dataSources, x.dataSourceId ≠ "")
    (ensured : s.ensureDataSource d type external name workspace = .ok (source, s')) :
    s' = { s with dataSources := s'.dataSources } ∧
      (∀ x ∈ s.dataSources, ∃ y ∈ s'.dataSources, y.dataSourceId = x.dataSourceId) ∧
      (∃ y ∈ s'.dataSources, y.dataSourceId = source.dataSourceId) ∧ ∀ y ∈ s'.dataSources, y.dataSourceId ≠ "" := by
  unfold ensureDataSource at ensured
  dsimp only at ensured
  split at ensured
  · cases ensured
  · split at ensured
    · next found here =>
      have member := List.mem_of_find?_eq_some here
      obtain ⟨rfl, rfl⟩ := Prod.mk.inj (Except.ok.inj ensured)
      refine ⟨rfl, ?_, ?_, ?_⟩
      · intro x mem
        refine ⟨_, List.mem_map_of_mem mem, ?_⟩
        split
        · next same => exact (beq_iff_eq.mp same).symm
        · rfl
      · refine ⟨_, List.mem_map_of_mem member, ?_⟩
        rw [if_pos (beq_self_eq_true _)]
      · intro y listed
        obtain ⟨x, mem, rfl⟩ := List.mem_map.mp listed
        split
        · exact unnamed found member
        · exact unnamed x mem
    · split at ensured
      · cases ensured
      · obtain ⟨rfl, rfl⟩ := Prod.mk.inj (Except.ok.inj ensured)
        refine ⟨rfl, fun x mem => ⟨x, List.mem_append_left _ mem, rfl⟩,
          ⟨_, List.mem_append_right _ (List.mem_singleton_self _), rfl⟩, fun y mem => ?_⟩
        rcases List.mem_append.mp mem with mem | mem
        · exact unnamed y mem
        · rw [List.mem_singleton.mp mem]
          exact d.identified _ _

theorem sourceForObservation_spec (unnamed : ∀ x ∈ s.dataSources, x.dataSourceId ≠ "")
    (here : s.observations.get? o.observationId = some o)
    (found : s.sourceForObservation d o = .ok (source, s')) : SourceFound s s' o source := by
  unfold sourceForObservation at found
  split at found
  · next stored first =>
    obtain ⟨rfl, rfl⟩ := Prod.mk.inj (Except.ok.inj found)
    have member := List.mem_of_find?_eq_some first
    have same : stored.dataSourceId = o.dataSourceId := by
      have passes := List.find?_some first
      simp only [Bool.and_eq_true, beq_iff_eq] at passes
      exact passes.2
    refine ⟨rfl, rfl, rfl, rfl, rfl, fun id => ?_, fun _ => same, fun x mem => ⟨x, mem, rfl⟩, ⟨stored, member, rfl⟩,
      unnamed⟩
    split
    · next same_id => rw [← same_id, here, same]
    · rfl
  · next missing =>
    obtain ⟨⟨ensured, after⟩, ensuring, rest⟩ := bind_eq_ok.mp found
    obtain ⟨rfl, rfl⟩ := Prod.mk.inj (Except.ok.inj rest)
    obtain ⟨only, sources, there, identified⟩ := ensureDataSource_spec unnamed ensuring
    rw [only]
    refine ⟨rfl, rfl, rfl, rfl, rfl, fun id => ?_, fun known => ?_, sources, there, identified⟩
    · exact Mapping.get?_set _ _ _ _
    · obtain ⟨x, mem, same⟩ := known
      have fails := List.find?_eq_none.mp missing x mem
      refine absurd ?_ fails
      simp only [Bool.and_eq_true, bne_iff_ne, beq_iff_eq]
      exact ⟨same ▸ unnamed x mem, same⟩

/-! ## A decision is made -/

/-- What a call that makes a decision changes, apart from rules. -/
structure Decides (s s' : RoutingState) (o : RequestObservation) (latest made : RoutingDecision)
    (source : String) : Prop where
  observed : s.observations.get? o.observationId = some o
  decided : s.latestDecision o.observationId = some latest
  observations : ∀ id, s'.observations.get? id =
    if o.observationId = id then some { o with dataSourceId := source } else s.observations.get? id
  decisions : ∀ id, s'.latestDecision id = if o.observationId = id then some made else s.latestDecision id
  paths : ∀ o, s'.assetPath o = s.assetPath o
  sources : ∀ x ∈ s.dataSources, ∃ y ∈ s'.dataSources, y.dataSourceId = x.dataSourceId
  there : made.taught = true → ∃ y ∈ s'.dataSources, y.dataSourceId = source
  identified : ∀ y ∈ s'.dataSources, y.dataSourceId ≠ ""
  selected : made.decision = .assigned → made.selectedProjectId ≠ ""
  lists : ∀ key id, s'.Lists key id →
    (s.Lists key id ∧ (id = o.observationId → ∀ pathid, s.assetPath o = some pathid → latest.decision = .assigned →
      key ≠ ⟨latest.selectedProjectId, pathid, latest.selectedEnvId⟩)) ∨
    (id = o.observationId ∧ ∃ pathid, s.assetPath o = some pathid ∧ key.pathid = pathid ∧
      made.selects = some (key.projectId, key.envId))
  present : ∀ key, s.bindings key ≠ none → s'.bindings key ≠ none
  bound : made.decision = .assigned → made.taught = true →
    s'.bindings ⟨source, made.selectedProjectId, made.selectedEnvId⟩ ≠ none

variable {latest made : RoutingDecision} {sourceId : String}

variable {id : String} {o' : RequestObservation} {key : BindingKey} {b : ProjectSourceBinding}
  {call : IgnoreCall}

/-- Who has taught what after the decision. -/
theorem Decides.taughtAt (decides : Decides s s' o latest made sourceId) : s'.TaughtAt id o' key ↔
      if o.observationId = id then o' = { o with dataSourceId := sourceId } ∧ made.decision = .assigned ∧
        made.taught = true ∧ key = ⟨sourceId, made.selectedProjectId, made.selectedEnvId⟩
      else s.TaughtAt id o' key := by
  unfold TaughtAt
  rw [decides.observations, decides.decisions]
  split
  · constructor
    · rintro ⟨same, d, is, assigned, taught, rfl⟩
      obtain rfl := Option.some.inj same
      obtain rfl := Option.some.inj is
      exact ⟨rfl, assigned, taught, rfl⟩
    · rintro ⟨rfl, assigned, taught, rfl⟩
      exact ⟨rfl, made, rfl, assigned, taught, rfl⟩
  · rfl

/-- A decision keeps everything but, perhaps, the rules. -/
theorem Decides.consistent (decides : Decides s s' o latest made sourceId) (consistent : s.Consistent)
    (rules : ∀ key b, s'.bindings key = some b → b.active = true → ∀ signature, signature ≠ "" →
      (signature ∈ b.signatures ↔ ∃ id o, s'.TaughtAt id o key ∧ signatureKey o = signature)) : s'.Consistent where
  rules := rules
  links id o' pathid here path key lists := by
    rw [decides.paths] at path
    rw [decides.observations] at here
    rw [decides.decisions]
    by_cases moved : o.observationId = id
    · rw [if_pos moved] at here ⊢
      obtain rfl := Option.some.inj here
      rcases decides.lists key id lists with ⟨listed, left⟩ | ⟨-, pathid', -, -, selects⟩
      · have selects := consistent.links id o pathid (moved ▸ decides.observed) path key listed
        have is := consistent.placed id o pathid (moved ▸ decides.observed) path key listed
        rw [← moved, decides.decided, Option.bind_some, RoutingDecision.selects] at selects
        split at selects
        · next assigned =>
          obtain ⟨project, env⟩ := Prod.mk.inj (Option.some.inj selects)
          refine absurd ?_ (left moved.symm pathid path assigned)
          rw [project, env, ← is]
        · cases selects
      · exact selects
    · rw [if_neg moved] at here ⊢
      rcases decides.lists key id lists with ⟨listed, -⟩ | ⟨same, -⟩
      · exact consistent.links id o' pathid here path key listed
      · exact absurd same.symm moved
  named id o' here := by
    rw [decides.observations] at here
    split at here
    · next moved =>
      obtain rfl := Option.some.inj here
      exact moved
    · exact consistent.named id o' here
  placed id o' pathid here path key lists := by
    rw [decides.paths] at path
    rw [decides.observations] at here
    by_cases moved : o.observationId = id
    · rw [if_pos moved] at here
      obtain rfl := Option.some.inj here
      rcases decides.lists key id lists with ⟨listed, -⟩ | ⟨-, pathid', path', is, -⟩
      · exact consistent.placed id o pathid (moved ▸ decides.observed) path key listed
      · exact is.trans (Option.some.inj (path'.symm.trans path))
    · rw [if_neg moved] at here
      rcases decides.lists key id lists with ⟨listed, -⟩ | ⟨same, -⟩
      · exact consistent.placed id o' pathid here path key listed
      · exact absurd same.symm moved
  selected id d' here assigned := by
    rw [decides.decisions] at here
    split at here
    · obtain rfl := Option.some.inj here
      exact decides.selected assigned
    · exact consistent.selected id d' here assigned
  bound id o' key taught := by
    rw [decides.taughtAt] at taught
    split at taught
    · obtain ⟨-, assigned, isTaught, rfl⟩ := taught
      exact decides.bound assigned isTaught
    · exact decides.present key (consistent.bound id o' key taught)
  sourced id o' key taught := by
    rw [decides.taughtAt] at taught
    split at taught
    · obtain ⟨rfl, -, isTaught, -⟩ := taught
      exact decides.there isTaught
    · obtain ⟨x, mem, same⟩ := consistent.sourced id o' key taught
      obtain ⟨y, mem', same'⟩ := decides.sources x mem
      exact ⟨y, mem', same'.trans same⟩
  sources := decides.identified

/-! ## The condition, read back -/

theorem taughtAt_iff {o : RequestObservation} :
    s.TaughtAt id o key ↔ (id, o) ∈ s.observations.items ∧ s.taughtAt (id, o) key = true := by
  unfold TaughtAt taughtAt
  rw [Mapping.mem_iff, Option.any_eq_true]
  simp only [Bool.and_eq_true, beq_iff_eq, and_assoc]

/-- Nobody else has taught the signature to the active binding that is left. -/
theorem not_shared (apart : s.sharesSignature o latest source = false)
    (assigned : latest.decision = .assigned)
    (found : s.bindings ⟨source.dataSourceId, latest.selectedProjectId, latest.selectedEnvId⟩ = some b)
    (active : b.active = true) (other : id ≠ o.observationId)
    (taught : s.TaughtAt id o' ⟨source.dataSourceId, latest.selectedProjectId, latest.selectedEnvId⟩)
    (signed : signatureKey o' ≠ "") : signatureKey o' ≠ signatureKey o := by
  intro same
  obtain ⟨member, holds⟩ := taughtAt_iff.mp taught
  have shared : s.sharesSignature o latest source = true := by
    unfold sharesSignature
    simp only [assigned, found, Option.any_some, active, beq_self_eq_true, Bool.true_and, List.any_eq_true]
    refine ⟨(id, o'), member, ?_⟩
    simp only [Bool.and_eq_true, bne_iff_ne, beq_iff_eq]
    exact ⟨⟨⟨other, holds⟩, signed⟩, same⟩
  rw [shared] at apart
  cases apart

/-- A disabled binding that comes back has the signatures that are taught there. -/
theorem reopened_rules (closed : s.reopens key = false)
    (found : s.bindings key = some b) (inactive : b.active = false) {signature : String} (signed : signature ≠ "") :
    signature ∈ b.signatures ↔ ∃ id o, s.TaughtAt id o key ∧ signatureKey o = signature := by
  unfold reopens at closed
  simp only [found, Option.any_some, inactive, Bool.not_false, Bool.true_and, Bool.not_eq_false', Bool.and_eq_true,
    List.all_eq_true, List.any_eq_true, beq_iff_eq, Bool.or_eq_true, Bool.not_eq_true',
    List.contains_iff_mem] at closed
  obtain ⟨learned, kept⟩ := closed
  constructor
  · intro mem
    obtain ⟨⟨id, o⟩, member, taught, same⟩ := learned signature (ProjectSourceBinding.mem_ruleSet.mpr ⟨mem, signed⟩)
    exact ⟨id, o, taughtAt_iff.mpr ⟨member, taught⟩, same⟩
  · rintro ⟨id, o, taught, rfl⟩
    obtain ⟨member, holds⟩ := taughtAt_iff.mp taught
    rcases kept (id, o) member with (untaught | unsigned) | mem
    · rw [holds] at untaught
      cases untaught
    · exact absurd unsigned signed
    · exact mem

/-- An observation that stays in its project's link is not moved within the project. -/
theorem not_moved_within {projectId : String} {pathid : Int} (stays : s.movesWithin o latest projectId = false)
    (assigned : latest.decision = .assigned) (same : latest.selectedProjectId = projectId)
    (path : s.assetPath o = some pathid) :
    ¬ s.Lists ⟨latest.selectedProjectId, pathid, latest.selectedEnvId⟩ o.observationId := by
  rintro ⟨link, found, listed⟩
  have moves : s.movesWithin o latest projectId = true := by
    unfold movesWithin
    rw [same] at found
    simp only [assigned, same, path, found, beq_self_eq_true, Bool.true_and, Option.any_some,
      List.contains_iff_mem.mpr listed]
  rw [moves] at stays
  cases stays

/-! ## The two calls -/

/-- What `checkAssign` lets through. -/
theorem checkAssign_proceeds {call : AssignCall} (checked : s.checkAssign d call = .ok (.proceeds o latest)) :
    s.observations.get? call.observationId = some o ∧ s.latestDecision o.observationId = some latest ∧
      call.projectId ∈ d.projects ∧ ¬(latest.decision = .assigned ∧ latest.selectedProjectId = call.projectId ∧
        latest.selectedEnvId = call.env) := by
  unfold checkAssign at checked
  split at checked
  · cases checked
  · next o' here =>
    split at checked
    · cases checked
    · next listed =>
      split at checked
      · cases checked
      · split at checked
        · cases checked
        · next latest' decided =>
          split at checked
          · cases checked
          · split at checked
            · cases checked
            · next differs =>
              split at checked
              · cases checked
              · obtain ⟨rfl, rfl⟩ := Checked.proceeds.inj (Except.ok.inj checked)
                refine ⟨here, decided, ?_, differs⟩
                simpa using listed

/-- What `checkIgnore` lets through. -/
theorem checkIgnore_proceeds (checked : s.checkIgnore call = .ok (.proceeds o latest)) :
    s.observations.get? call.observationId = some o ∧ s.latestDecision call.observationId = some latest := by
  unfold checkIgnore at checked
  split at checked
  · next o' latest' here decided =>
    split at checked
    · cases checked
    · split at checked
      · cases checked
      · split at checked
        · cases checked
        · obtain ⟨rfl, rfl⟩ := Checked.proceeds.inj (Except.ok.inj checked)
          exact ⟨here, decided⟩
  · cases checked

theorem latestDecision_append {id' : String} {decision : ℕ → RoutingDecision} :
    (s.appendDecision id decision).latestDecision id' = if id = id' then some (decision s.nextId) else s.latestDecision id' := by
  unfold latestDecision appendDecision
  simp only [Function.update_apply, eq_comm (a := id)]
  split <;> rfl

/-- The binding that the latest decision puts the observation in. -/
def oldKey (source : DataSource) (latest : RoutingDecision) : BindingKey :=
  ⟨source.dataSourceId, latest.selectedProjectId, latest.selectedEnvId⟩

/-- The binding that a call puts the observation in. -/
def newKey (source : DataSource) (call : AssignCall) : BindingKey := ⟨source.dataSourceId, call.projectId, call.env⟩

def unlearned (s : RoutingState) (o : RequestObservation) (latest : RoutingDecision) (source : DataSource) :
    RoutingState :=
  if latest.decision = .assigned then s.unteachBinding (oldKey source latest) o else s

/-- The bindings after an assignment. -/
def rebound (s : RoutingState) (o : RequestObservation) (latest : RoutingDecision) (source : DataSource)
    (call : AssignCall) : RoutingState :=
  let s := (s.unlearned o latest source).ensureSourceBinding source (newKey source call)
  if call.teachFuture then s.teachBinding (newKey source call) o else s

theorem unlearned_only : OnlyBindings s (s.unlearned o latest source) := by
  unfold unlearned
  split
  · exact unteachBinding_only
  · exact .refl

theorem unlearned_present (present : s.bindings key ≠ none) :
    (s.unlearned o latest source).bindings key ≠ none := by
  unfold unlearned
  split
  · exact unteachBinding_present present
  · exact present

theorem unlearned_rules {b' : ProjectSourceBinding}
    (here : (s.unlearned o latest source).bindings key = some b') :
    ∃ b, s.bindings key = some b ∧ b'.active = b.active ∧ ∀ signature, signature ≠ "" →
      (signature ∈ b'.signatures ↔ signature ∈ b.signatures ∧ ¬(latest.decision = .assigned ∧ b.active = true ∧
        key = oldKey source latest ∧ signature = signatureKey o)) := by
  unfold unlearned at here
  split at here
  · next assigned =>
    obtain ⟨b, found, active, rules⟩ := unteachBinding_rules here
    refine ⟨b, found, active, fun signature signed => ?_⟩
    rw [rules signature signed]
    simp only [assigned, true_and]
  · next unassigned =>
    exact ⟨b', here, rfl, fun signature _ => ⟨fun mem => ⟨mem, fun h => unassigned h.1⟩, fun h => h.1⟩⟩

variable {call : AssignCall}

theorem rebound_only : OnlyBindings s (s.rebound o latest source call) := by
  unfold rebound
  dsimp only
  split
  · exact (unlearned_only.trans ensureSourceBinding_only).trans teachBinding_only
  · exact unlearned_only.trans ensureSourceBinding_only

theorem rebound_present (present : s.bindings key ≠ none ∨ key = newKey source call) :
    (s.rebound o latest source call).bindings key ≠ none := by
  have ensured : ((s.unlearned o latest source).ensureSourceBinding source (newKey source call)).bindings key ≠ none := by
    rcases present with present | rfl
    · exact ensureSourceBinding_present (unlearned_present present)
    · exact ensureSourceBinding_here
  unfold rebound
  dsimp only
  split
  · exact teachBinding_present ensured
  · exact ensured

/-- The rules of a binding after an assignment. -/
theorem rebound_rules {b' : ProjectSourceBinding}
    (here : (s.rebound o latest source call).bindings key = some b') :
    (∃ b, s.bindings key = some b ∧ (key ≠ newKey source call → b'.active = b.active) ∧ ∀ signature, signature ≠ "" →
      (signature ∈ b'.signatures ↔ (signature ∈ b.signatures ∧ ¬(latest.decision = .assigned ∧ b.active = true ∧
        key = oldKey source latest ∧ signature = signatureKey o)) ∨
        (call.teachFuture = true ∧ key = newKey source call ∧ signature = signatureKey o))) ∨
    (key = newKey source call ∧ s.bindings key = none ∧ ∀ signature, signature ≠ "" →
      (signature ∈ b'.signatures ↔ call.teachFuture = true ∧ signature = signatureKey o)) := by
  have taught : ∃ b, ((s.unlearned o latest source).ensureSourceBinding source (newKey source call)).bindings key =
      some b ∧ b'.active = b.active ∧ ∀ signature, signature ≠ "" → (signature ∈ b'.signatures ↔
        signature ∈ b.signatures ∨ (call.teachFuture = true ∧ key = newKey source call ∧ signature = signatureKey o)) := by
    unfold rebound at here
    dsimp only at here
    split at here
    · next teaches =>
      obtain ⟨b, found, active, rules⟩ := teachBinding_rules here
      refine ⟨b, found, active, fun signature signed => ?_⟩
      rw [rules signature signed]
      simp only [teaches, true_and]
    · next silent =>
      exact ⟨b', here, rfl, fun signature _ => ⟨Or.inl, fun h => h.resolve_right fun h => silent h.1⟩⟩
  obtain ⟨ensured, found, active, rules⟩ := taught
  rcases ensureSourceBinding_rules found with ⟨b, found, same, open_⟩ | ⟨is, absent, empty⟩
  · obtain ⟨old, found, active', rules'⟩ := unlearned_rules found
    refine .inl ⟨old, found, fun other => (active.trans (open_ other)).trans active', fun signature signed => ?_⟩
    rw [rules signature signed, same, rules' signature signed]
  · refine .inr ⟨is, ?_, fun signature signed => ?_⟩
    · by_contra present
      exact unlearned_present (is ▸ present) absent
    · rw [rules signature signed, empty]
      simp only [List.not_mem_nil, false_or, is, true_and]

/-- An assignment that returns has left the store alone, or has made a decision. -/
theorem assignObservationProject_ok {result : RoutingDecision × Promotion}
    (assigned : s.assignObservationProject d call = .ok (result, s')) :
    s' = s ∨ ∃ o latest source found, s.checkAssign d call = .ok (.proceeds o latest) ∧
      s.sourceForObservation d o = .ok (source, found) ∧
      s' = (((found.rebound o latest source call).appendDecision o.observationId
        (call.decision latest)).promoteExistingSample o call.projectId call.env latest.selectedProjectId
        latest.selectedEnvId).2 := by
  unfold assignObservationProject at assigned
  obtain ⟨checked, check, assigned⟩ := bind_eq_ok.mp assigned
  cases checked with
  | unchanged latest => exact .inl (Prod.mk.inj (Except.ok.inj assigned)).2.symm
  | proceeds o latest =>
    obtain ⟨⟨source, found⟩, sourced, assigned⟩ := bind_eq_ok.mp assigned
    exact .inr ⟨o, latest, source, found, check, sourced, (Prod.mk.inj (Except.ok.inj assigned)).2.symm⟩

/-- A store after the bindings were written and the decision was appended. -/
structure Middle (s mid : RoutingState) (o : RequestObservation) (source : DataSource) (made : RoutingDecision) : Prop where
  observations : ∀ id, mid.observations.get? id =
    if o.observationId = id then some { o with dataSourceId := source.dataSourceId } else s.observations.get? id
  decisions : ∀ id, mid.latestDecision id = if o.observationId = id then some made else s.latestDecision id
  links : mid.links = s.links
  paths : ∀ o, mid.assetPath o = s.assetPath o
  sources : ∀ x ∈ s.dataSources, ∃ y ∈ mid.dataSources, y.dataSourceId = x.dataSourceId
  there : ∃ y ∈ mid.dataSources, y.dataSourceId = source.dataSourceId
  identified : ∀ y ∈ mid.dataSources, y.dataSourceId ≠ ""

theorem SourceFound.middle {found bound : RoutingState} {decision : ℕ → RoutingDecision}
    (first : SourceFound s found o source) (only : OnlyBindings found bound) :
    Middle s (bound.appendDecision o.observationId decision) o source (decision bound.nextId) where
  observations id := by
    rw [appendDecision, only.observations]
    exact first.observations id
  decisions id := by
    rw [latestDecision_append, latestDecision, only.decisions, first.decisions, latestDecision]
  links := only.links.trans first.links
  paths := assetPath_congr (only.samples.trans first.samples) (only.assets.trans first.assets)
  sources x mem := by
    rw [appendDecision, only.dataSources]
    exact first.sources x mem
  there := by
    rw [appendDecision, only.dataSources]
    exact first.there
  identified := by
    rw [appendDecision, only.dataSources]
    exact first.identified

/-- An observation that has taught was taught where its latest decision puts it. -/
theorem taught_old (consistent : s.Consistent) (first : SourceFound s s' o source)
    (decided : s.latestDecision o.observationId = some latest) (observed : s.observations.get? o.observationId = some o) (taught : s.TaughtAt o.observationId o' key) :
    latest.decision = .assigned ∧ key = oldKey source latest ∧ o' = o := by
  obtain ⟨here, d', decided', assigned, isTaught, rfl⟩ := taught
  obtain rfl := Option.some.inj (observed.symm.trans here)
  obtain rfl := Option.some.inj (decided.symm.trans decided')
  have known := first.known (consistent.sourced _ _ _ ⟨observed, latest, decided, assigned, isTaught, rfl⟩)
  exact ⟨assigned, by rw [oldKey, known], rfl⟩

/-- What stays of a binding's signatures when an observation leaves: those that others have taught there. -/
theorem left_rules (consistent : s.Consistent) (first : SourceFound s s' o source)
    (decided : s.latestDecision o.observationId = some latest) (observed : s.observations.get? o.observationId = some o)
    (apart : s.sharesSignature o latest source = false)
    (stored : s.bindings key = some b)
    (activity : latest.decision = .assigned → key = oldKey source latest → b.active = true) {signature : String}
    (signed : signature ≠ "") (base : signature ∈ b.signatures ↔ ∃ id o', s.TaughtAt id o' key ∧ signatureKey o' = signature) :
    (signature ∈ b.signatures ∧ ¬(latest.decision = .assigned ∧ b.active = true ∧ key = oldKey source latest ∧
      signature = signatureKey o)) ↔
      ∃ id o', id ≠ o.observationId ∧ s.TaughtAt id o' key ∧ signatureKey o' = signature := by
  constructor
  · rintro ⟨mem, left⟩
    obtain ⟨id, o', taught, rfl⟩ := base.mp mem
    refine ⟨id, o', ?_, taught, rfl⟩
    rintro rfl
    obtain ⟨was, is, rfl⟩ := taught_old consistent first decided observed taught
    exact left ⟨was, activity was is, is, rfl⟩
  · rintro ⟨id, o', other, taught, rfl⟩
    refine ⟨base.mpr ⟨id, o', taught, rfl⟩, ?_⟩
    rintro ⟨was, active, rfl, same⟩
    exact not_shared apart was stored active other taught signed same

/-- An assignment keeps agreement where the condition holds. -/
theorem assign_consistent {result : RoutingDecision × Promotion} (consistent : s.Consistent)
    (admitted : agreeable d s (.assign call) = true)
    (assigned : s.assignObservationProject d call = .ok (result, s')) : s'.Consistent := by
  rcases assignObservationProject_ok assigned with rfl | ⟨o, latest, source, found, check, sourced, is⟩
  · exact consistent
  obtain ⟨named, decided, project, differs⟩ := checkAssign_proceeds check
  have observed : s.observations.get? o.observationId = some o := by
    rw [consistent.named _ _ named]
    exact named
  simp only [agreeable, check, sourced, Bool.and_eq_true, Bool.not_eq_true'] at admitted
  obtain ⟨⟨stays, apart⟩, closed⟩ := admitted
  have first := sourceForObservation_spec consistent.sources observed sourced
  have middle : Middle s ((found.rebound o latest source call).appendDecision o.observationId
      (call.decision latest)) o source _ :=
    first.middle rebound_only
  have promoted := promoteExistingSample_spec
    (s := (found.rebound o latest source call).appendDecision o.observationId (call.decision latest)) (o := o)
    call.projectId call.env latest.selectedProjectId latest.selectedEnvId
  rw [← is] at promoted
  obtain ⟨filing, lists⟩ := promoted
  have bindings : s'.bindings = (found.rebound o latest source call).bindings := filing.bindings
  have before : found.bindings = s.bindings := first.bindings
  have decides : Decides s s' o latest (call.decision latest (found.rebound o latest source call).nextId)
      source.dataSourceId := by
    refine ⟨observed, decided, ?_, ?_, ?_, ?_, fun _ => ?_, ?_, fun _ => ?_, ?_, ?_, fun _ _ => ?_⟩
    · intro id
      rw [filing.observations]
      exact middle.observations id
    · intro id
      rw [← middle.decisions id, latestDecision, filing.decisions]
      rfl
    · exact fun o' => (filing.assetPath o').trans (middle.paths o')
    · rw [filing.dataSources]
      exact middle.sources
    · rw [filing.dataSources]
      exact middle.there
    · rw [filing.dataSources]
      exact middle.identified
    · exact fun empty => d.named (empty ▸ project)
    · intro key id listed
      rcases lists key id listed with ⟨listed, left⟩ | ⟨pathid, path, rfl, rfl⟩
      · have listed := lists_of_links middle.links listed
        refine .inl ⟨listed, ?_⟩
        rintro rfl pathid path was rfl
        by_cases same : latest.selectedProjectId = call.projectId
        · exact not_moved_within stays was same path listed
        · exact left pathid (by rw [middle.paths, path]) (consistent.selected _ _ decided was) same ⟨rfl, rfl⟩
      · rw [middle.paths] at path
        exact .inr ⟨rfl, pathid, path, rfl, rfl⟩
    · intro key present
      rw [bindings]
      exact rebound_present (.inl (by rwa [before]))
    · rw [bindings]
      exact rebound_present (.inr rfl)
  refine decides.consistent consistent fun key b' here active signature signed => ?_
  have taught_after : (∃ id o', s'.TaughtAt id o' key ∧ signatureKey o' = signature) ↔
      (call.teachFuture = true ∧ key = newKey source call ∧ signature = signatureKey o) ∨
        ∃ id o', id ≠ o.observationId ∧ s.TaughtAt id o' key ∧ signatureKey o' = signature := by
    constructor
    · rintro ⟨id, o', taught, rfl⟩
      rw [decides.taughtAt] at taught
      split at taught
      · obtain ⟨rfl, -, teaches, rfl⟩ := taught
        exact .inl ⟨teaches, rfl, rfl⟩
      · next other => exact .inr ⟨id, o', fun same => other same.symm, taught, rfl⟩
    · rintro (⟨teaches, rfl, rfl⟩ | ⟨id, o', other, taught, rfl⟩)
      · refine ⟨o.observationId, { o with dataSourceId := source.dataSourceId }, ?_, rfl⟩
        rw [decides.taughtAt, if_pos rfl]
        exact ⟨rfl, rfl, teaches, rfl⟩
      · refine ⟨id, o', ?_, rfl⟩
        rw [decides.taughtAt, if_neg fun same => other same.symm]
        exact taught
  rw [taught_after]
  have apart_keys : latest.decision = .assigned → oldKey source latest ≠ newKey source call := by
    intro was same
    obtain ⟨-, project', env'⟩ := BindingKey.mk.inj same
    exact differs ⟨was, project', env'⟩
  rw [bindings] at here
  rcases rebound_rules here with ⟨b, stored, activity, rules⟩ | ⟨rfl, absent, rules⟩
  · rw [before] at stored
    rw [rules signature signed]
    have base : signature ∈ b.signatures ↔ ∃ id o', s.TaughtAt id o' key ∧ signatureKey o' = signature := by
      by_cases open_ : b.active = true
      · exact consistent.rules key b stored open_ signature signed
      · by_cases here' : key = newKey source call
        · exact reopened_rules (here' ▸ closed) stored (Bool.not_eq_true _ ▸ open_) signed
        · exact absurd ((activity here').symm.trans active) open_
    rw [left_rules consistent first decided observed apart stored (fun was is => ?_) signed base, or_comm]
    exact (activity (is ▸ apart_keys was)).symm.trans active
  · rw [before] at absent
    rw [rules signature signed]
    constructor
    · exact fun taught => .inl ⟨taught.1, rfl, taught.2⟩
    · rintro (taught | ⟨id, o', -, taught, -⟩)
      · exact ⟨taught.1, taught.2.2⟩
      · exact absurd absent (consistent.bound id o' _ taught)

/-- Ignoring that returns has left the store alone, or has made a decision. -/
theorem ignoreObservation_ok {call : IgnoreCall} {result : RoutingDecision}
    (ignored : s.ignoreObservation d call = .ok (result, s')) :
    s' = s ∨ ∃ o latest, s.checkIgnore call = .ok (.proceeds o latest) ∧
      ((latest.decision ≠ .assigned ∧ s' = s.appendDecision o.observationId (call.decision latest)) ∨
        (latest.decision = .assigned ∧ ∃ source found, s.sourceForObservation d o = .ok (source, found) ∧
          s' = ((found.unlearned o latest source).detachOldAssetLink o latest.selectedProjectId latest.selectedEnvId
            "ignored").appendDecision o.observationId (call.decision latest))) := by
  unfold ignoreObservation at ignored
  obtain ⟨checked, check, ignored⟩ := bind_eq_ok.mp ignored
  cases checked with
  | unchanged latest => exact .inl (Prod.mk.inj (Except.ok.inj ignored)).2.symm
  | proceeds o latest =>
    refine .inr ⟨o, latest, check, ?_⟩
    dsimp only at ignored
    split at ignored
    · next assigned =>
      obtain ⟨⟨source, found⟩, sourced, ignored⟩ := bind_eq_ok.mp ignored
      refine .inr ⟨assigned, source, found, sourced, ?_⟩
      rw [unlearned, if_pos assigned]
      exact (Prod.mk.inj (Except.ok.inj ignored)).2.symm
    · next unassigned => exact .inl ⟨unassigned, (Prod.mk.inj (Except.ok.inj ignored)).2.symm⟩

/-- Ignoring keeps agreement where the condition holds. -/
theorem ignore_consistent {call : IgnoreCall} {result : RoutingDecision} (consistent : s.Consistent)
    (admitted : agreeable d s (.ignore call) = true)
    (ignored : s.ignoreObservation d call = .ok (result, s')) : s'.Consistent := by
  rcases ignoreObservation_ok ignored with rfl | ⟨o, latest, check, moved⟩
  · exact consistent
  obtain ⟨named, decided⟩ := checkIgnore_proceeds check
  have is_named := consistent.named _ _ named
  have observed : s.observations.get? o.observationId = some o := by rw [is_named, named]
  rw [← is_named] at decided
  rcases moved with ⟨unassigned, rfl⟩ | ⟨assigned, source, found, sourced, is⟩
  · have decides : Decides s (s.appendDecision o.observationId (call.decision latest)) o latest
        (call.decision latest s.nextId) o.dataSourceId := by
      refine ⟨observed, decided, fun id => ?_, fun id => latestDecision_append, fun _ => rfl, fun x mem => ⟨x, mem, rfl⟩,
        (nomatch ·), consistent.sources, (nomatch ·), fun key id listed => ?_, fun _ present => present, (nomatch ·)⟩
      · split
        · next same => rw [← same]; exact observed
        · rfl
      · exact .inl ⟨listed, fun _ _ _ was => absurd was unassigned⟩
    refine decides.consistent consistent fun key b here active signature signed => ?_
    rw [consistent.rules key b here active signature signed]
    constructor
    · rintro ⟨id, o', taught, rfl⟩
      refine ⟨id, o', ?_, rfl⟩
      rw [decides.taughtAt, if_neg]
      · exact taught
      · rintro rfl
        obtain ⟨-, d', decided', was, -⟩ := taught
        obtain rfl := Option.some.inj (decided.symm.trans decided')
        exact unassigned was
    · rintro ⟨id, o', taught, rfl⟩
      rw [decides.taughtAt] at taught
      split at taught
      · nomatch taught.2.1
      · exact ⟨id, o', taught, rfl⟩
  · simp only [agreeable, check, sourced, Bool.not_eq_true'] at admitted
    have first := sourceForObservation_spec consistent.sources observed sourced
    have only : OnlyBindings found (found.unlearned o latest source) := unlearned_only
    obtain ⟨filing, lists⟩ := detachOldAssetLink_spec (s := found.unlearned o latest source) (o := o)
      latest.selectedProjectId latest.selectedEnvId "ignored"
    have decides : Decides s s' o latest (call.decision latest ((found.unlearned o latest source).detachOldAssetLink o
        latest.selectedProjectId latest.selectedEnvId "ignored").nextId) source.dataSourceId := by
      rw [is]
      refine ⟨observed, decided, fun id => ?_, fun id => ?_, fun o' => ?_, fun x mem => ?_, (nomatch ·), fun y mem => ?_,
        (nomatch ·), fun key id listed => ?_, fun key present => ?_, (nomatch ·)⟩
      · rw [appendDecision, filing.observations, only.observations]
        exact first.observations id
      · rw [latestDecision_append, latestDecision, filing.decisions, only.decisions, first.decisions, latestDecision]
      · exact (filing.assetPath o').trans
          (assetPath_congr (only.samples.trans first.samples) (only.assets.trans first.assets) o')
      · rw [appendDecision, filing.dataSources, only.dataSources]
        exact first.sources x mem
      · rw [appendDecision, filing.dataSources, only.dataSources] at mem
        exact first.identified y mem
      · obtain ⟨listed, left⟩ := lists key id listed
        refine .inl ⟨lists_of_links (only.links.trans first.links) listed, ?_⟩
        rintro rfl pathid path - rfl
        rw [← assetPath_congr (only.samples.trans first.samples) (only.assets.trans first.assets)] at path
        exact left pathid path ⟨rfl, rfl⟩
      · rw [appendDecision, filing.bindings]
        exact unlearned_present (by rwa [first.bindings])
    refine decides.consistent consistent fun key b' here active signature signed => ?_
    rw [is, appendDecision, filing.bindings] at here
    obtain ⟨b, stored, same, rules⟩ := unlearned_rules here
    rw [first.bindings] at stored
    rw [rules signature signed, left_rules consistent first decided observed admitted stored
      (fun _ _ => same.symm.trans active) signed (consistent.rules key b stored (same.symm.trans active) signature signed)]
    constructor
    · rintro ⟨id, o', other, taught, rfl⟩
      refine ⟨id, o', ?_, rfl⟩
      rw [decides.taughtAt, if_neg fun same => other same.symm]
      exact taught
    · rintro ⟨id, o', taught, rfl⟩
      rw [decides.taughtAt] at taught
      split at taught
      · nomatch taught.2.1
      · next other => exact ⟨id, o', fun same => other same.symm, taught, rfl⟩

end RoutingState

variable {d : Directory} {s s' : RoutingState} {calls : List Call}

theorem manualRouting_consistent {call : Call} (consistent : s.Consistent) (admitted : agreeable d s call = true)
    (step : (manualRouting d).step s call = some s') : s'.Consistent := by
  cases call with
  | assign call =>
    simp only [manualRouting] at step
    split at step
    · next assigned =>
      obtain rfl := Option.some.inj step
      exact RoutingState.assign_consistent consistent admitted assigned
    · obtain rfl := Option.some.inj step
      exact consistent
  | ignore call =>
    simp only [manualRouting] at step
    split at step
    · next ignored =>
      obtain rfl := Option.some.inj step
      exact RoutingState.ignore_consistent consistent admitted ignored
    · obtain rfl := Option.some.inj step
      exact consistent

/-- **Agreement of manual routing.** After any sequence of manual decisions each of which meets the condition, links
and rules agree with the latest decisions. -/
theorem routing_agrees (consistent : s.Consistent) (run : (manualRouting d).run (agreeable d) s calls = some s') :
    s'.Agrees :=
  (System.invariant consistent (fun _ _ _ => manualRouting_consistent) run).toAgrees

/-! ## One project with two environments -/

/-- A project with two environments; the identity is the digest of the one source there is. -/
def twoEnvironments : Directory where
  projects := ["shop"]
  environments := [("shop", "test"), ("shop", "prod")]
  identity _ _ := "source-1"
  named := by decide
  identified _ _ := by decide

/-- Two observations of one request, of which the first has a sample. -/
def imported : RoutingState where
  observations := .ofItems [
    ("o1", { observationId := "o1", sourceType := "har", sourceId := "s", method := "GET",
             abstractSignature := "/orders", sampleId := "sample" }),
    ("o2", { observationId := "o2", sourceType := "har", sourceId := "s", method := "GET",
             abstractSignature := "/orders" })]
  decisions := fun id => if id = "o1" ∨ id = "o2" then [{ id := 0, decision := .unassigned }] else []
  samples := .ofItems [("sample", { rawData := some "asset" })]
  assets := fun key => if key = "asset" then some { ptahId := 7 } else none
  nextId := 1

theorem imported_untaught {id : String} {o : RequestObservation} {key : BindingKey} : ¬ imported.TaughtAt id o key := by
  rintro ⟨-, d, decided, assigned, -⟩
  unfold RoutingState.latestDecision imported at decided
  dsimp only at decided
  split at decided
  · obtain rfl := Option.some.inj decided
    nomatch assigned
  · nomatch decided

theorem imported_consistent : imported.Consistent where
  links _ _ _ _ _ _ lists := by obtain ⟨_, found, -⟩ := lists; cases found
  rules _ _ found := by cases found
  named id o here := by
    have member := Mapping.mem_ofItems (Mapping.mem_iff.mpr here)
    simp only [List.mem_cons, Prod.mk.injEq, List.not_mem_nil, or_false] at member
    rcases member with ⟨rfl, rfl⟩ | ⟨rfl, rfl⟩ <;> rfl
  placed _ _ _ _ _ _ lists := by obtain ⟨_, found, -⟩ := lists; cases found
  selected id d decided assigned := by
    unfold RoutingState.latestDecision imported at decided
    dsimp only at decided
    split at decided
    · obtain rfl := Option.some.inj decided
      cases assigned
    · cases decided
  bound _ _ _ taught := absurd taught imported_untaught
  sourced _ _ _ taught := absurd taught imported_untaught
  sources _ member := by cases member

/-- An observation goes to one environment, where it is taught, and is then ignored. -/
def assignThenIgnore : List Call := [
  .assign { observationId := "o1", projectId := "shop", envId := "test" },
  .ignore { observationId := "o1", overrideFinal := true }]

/-- After these two calls links and rules agree with the decisions. -/
theorem routing_agrees_ignored : ∃ s', (manualRouting twoEnvironments).run (agreeable twoEnvironments) imported
    assignThenIgnore = some s' ∧ s'.Agrees := by
  obtain ⟨s', run, -⟩ := System.exists_of_run (M := manualRouting twoEnvironments) (g := agreeable twoEnvironments)
    (s := imported) (l := assignThenIgnore) (P := fun _ => true) (by decide +kernel)
  exact ⟨s', run, routing_agrees imported_consistent run⟩

/-- An observation goes from one environment to the other. -/
def changeEnvironment : List Call := [
  .assign { observationId := "o1", projectId := "shop", envId := "test" },
  .assign { observationId := "o1", projectId := "shop", envId := "prod", overrideFinal := true }]

/-- The link of the old environment still lists the observation. -/
theorem routing_disagrees : ¬ ∀ (d : Directory) (s s' : RoutingState) (calls : List Call), s.Consistent →
    (manualRouting d).run (free RoutingState Call) s calls = some s' → s'.Agrees := by
  intro agrees
  obtain ⟨s', run, holds⟩ := System.exists_of_run (M := manualRouting twoEnvironments)
    (g := free RoutingState Call) (s := imported) (l := changeEnvironment)
    (P := fun s => (s.observations.get? "o1").any (fun o => s.assetPath o == some 7) &&
      (s.links ⟨"shop", 7, "test"⟩).any (·.observationIds.contains "o1") &&
      decide ((s.latestDecision "o1").bind (·.selects) = some ("shop", "prod"))) (by decide +kernel)
  simp only [Bool.and_eq_true, Option.any_eq_true, beq_iff_eq, decide_eq_true_eq, List.contains_iff_mem] at holds
  obtain ⟨⟨⟨o, here, path⟩, ⟨link, found, listed⟩⟩, selects⟩ := holds
  have where_ := (agrees _ _ _ _ imported_consistent run).links "o1" o 7 here path _ ⟨link, found, listed⟩
  rw [selects] at where_
  exact absurd where_ (by decide)

/-- Two observations teach one signature, and one of them is ignored. -/
def ignoreOneOfTwo : List Call := [
  .assign { observationId := "o1", projectId := "shop", envId := "test" },
  .assign { observationId := "o2", projectId := "shop", envId := "test" },
  .ignore { observationId := "o1", overrideFinal := true }]

end ApiManger.Routing
