import Mathlib.Data.List.Dedup
import ApiManger.Routing.Decisions

/-!
# What the steps of a manual decision change

Teaching and unteaching write bindings only; detaching and promoting write samples,
assets and links only, and never which asset a sample has or which path an asset has.
-/

namespace ApiManger.Routing
open Python Collection

theorem mem_sortedSet {texts : List String} {text : String} : text ∈ sortedSet texts ↔ text ∈ texts := by
  unfold sortedSet
  rw [(List.perm_insertionSort _ _).mem_iff, List.mem_dedup]

theorem ProjectSourceBinding.mem_ruleSet {b : ProjectSourceBinding} {signature : String} :
    signature ∈ b.ruleSet ↔ signature ∈ b.signatures ∧ signature ≠ "" := by
  simp [ProjectSourceBinding.ruleSet]

namespace RoutingState
variable {s s' : RoutingState} {key key' : BindingKey} {o : RequestObservation} {b b' : ProjectSourceBinding}

/-! ## Bindings -/

/-- Only bindings are written. -/
structure OnlyBindings (s s' : RoutingState) : Prop where
  observations : s'.observations = s.observations
  decisions : s'.decisions = s.decisions
  dataSources : s'.dataSources = s.dataSources
  links : s'.links = s.links
  samples : s'.samples = s.samples
  assets : s'.assets = s.assets

theorem OnlyBindings.refl : OnlyBindings s s := ⟨rfl, rfl, rfl, rfl, rfl, rfl⟩

theorem OnlyBindings.trans {s'' : RoutingState} (first : OnlyBindings s s') (next : OnlyBindings s' s'') :
    OnlyBindings s s'' where
  observations := next.observations.trans first.observations
  decisions := next.decisions.trans first.decisions
  dataSources := next.dataSources.trans first.dataSources
  links := next.links.trans first.links
  samples := next.samples.trans first.samples
  assets := next.assets.trans first.assets

theorem setBinding_only : OnlyBindings s (s.setBinding key b) := ⟨rfl, rfl, rfl, rfl, rfl, rfl⟩

theorem unteachBinding_only : OnlyBindings s (s.unteachBinding key o) := by
  unfold unteachBinding
  dsimp only
  split
  · exact .refl
  · split
    · split
      · exact setBinding_only
      · exact .refl
    · exact .refl

theorem teachBinding_only : OnlyBindings s (s.teachBinding key o) := by
  unfold teachBinding
  dsimp only
  split
  · exact .refl
  · split
    · exact setBinding_only
    · exact .refl

theorem ensureSourceBinding_only {source : DataSource} : OnlyBindings s (s.ensureSourceBinding source key) := by
  unfold ensureSourceBinding
  split
  · split
    · exact .refl
    · exact setBinding_only
  · exact setBinding_only

@[simp] theorem setBinding_bindings : (s.setBinding key b).bindings key' = if key' = key then some b else s.bindings key' := by
  simp [setBinding, Function.update_apply]

/-- Unteaching takes the signature out of an active binding. -/
theorem unteachBinding_rules (here : (s.unteachBinding key o).bindings key' = some b') :
    ∃ b, s.bindings key' = some b ∧ b'.active = b.active ∧ ∀ signature, signature ≠ "" →
      (signature ∈ b'.signatures ↔ signature ∈ b.signatures ∧
        ¬(b.active = true ∧ key' = key ∧ signature = signatureKey o)) := by
  unfold unteachBinding at here
  dsimp only at here
  split at here
  · next empty =>
    refine ⟨b', here, rfl, fun signature some_text => ⟨fun mem => ⟨mem, fun h => ?_⟩, fun h => h.1⟩⟩
    exact some_text (h.2.2.trans (beq_iff_eq.mp empty))
  · split at here
    · next b found =>
      split at here
      · next listed =>
        rw [setBinding_bindings] at here
        by_cases same : key' = key
        · rw [if_pos same, Option.some.injEq] at here
          obtain ⟨active, -⟩ := Bool.and_eq_true_iff.mp listed
          subst same
          subst here
          refine ⟨b, found, rfl, fun signature some_text => ?_⟩
          simp only [mem_sortedSet, List.mem_filter, ProjectSourceBinding.mem_ruleSet, bne_iff_ne]
          constructor
          · rintro ⟨⟨mem, -⟩, other⟩
            exact ⟨mem, fun h => other h.2.2⟩
          · rintro ⟨mem, other⟩
            exact ⟨⟨mem, some_text⟩, fun same => other ⟨active, trivial, same⟩⟩
        · rw [if_neg same] at here
          exact ⟨b', here, rfl, fun signature _ => ⟨fun mem => ⟨mem, fun h => same h.2.1⟩, fun h => h.1⟩⟩
      · next unlisted =>
        refine ⟨b', here, rfl, fun signature some_text => ⟨fun mem => ⟨mem, ?_⟩, fun h => h.1⟩⟩
        rintro ⟨active, rfl, rfl⟩
        rw [found, Option.some.injEq] at here
        subst here
        refine unlisted (Bool.and_eq_true_iff.mpr ⟨active, ?_⟩)
        exact List.contains_iff_mem.mpr (ProjectSourceBinding.mem_ruleSet.mpr ⟨mem, some_text⟩)
    · next absent =>
      refine ⟨b', here, rfl, fun signature _ => ⟨fun mem => ⟨mem, ?_⟩, fun h => h.1⟩⟩
      rintro ⟨-, rfl, -⟩
      rw [absent] at here
      cases here

/-- Teaching adds the signature to a binding. -/
theorem teachBinding_rules (here : (s.teachBinding key o).bindings key' = some b') :
    ∃ b, s.bindings key' = some b ∧ b'.active = b.active ∧ ∀ signature, signature ≠ "" →
      (signature ∈ b'.signatures ↔ signature ∈ b.signatures ∨ (key' = key ∧ signature = signatureKey o)) := by
  unfold teachBinding at here
  dsimp only at here
  split at here
  · next empty =>
    refine ⟨b', here, rfl, fun signature some_text => ⟨Or.inl, fun h => h.resolve_right fun h => ?_⟩⟩
    exact some_text (h.2.trans (beq_iff_eq.mp empty))
  · split at here
    · next b found =>
      rw [setBinding_bindings] at here
      by_cases same : key' = key
      · rw [if_pos same, Option.some.injEq] at here
        subst same
        subst here
        refine ⟨b, found, rfl, fun signature some_text => ?_⟩
        simp only [mem_sortedSet, List.mem_append, ProjectSourceBinding.mem_ruleSet, List.mem_singleton, true_and]
        constructor
        · exact fun h => h.imp (fun h => h.1) id
        · exact fun h => h.imp (fun h => ⟨h, some_text⟩) id
      · rw [if_neg same] at here
        exact ⟨b', here, rfl, fun signature _ => ⟨Or.inl, fun h => h.resolve_right fun h => same h.1⟩⟩
    · next absent =>
      refine ⟨b', here, rfl, fun signature _ => ⟨Or.inl, fun h => h.resolve_right ?_⟩⟩
      rintro ⟨rfl, -⟩
      rw [absent] at here
      cases here

/-- A binding that is ensured is there and active, with the signatures it had. -/
theorem ensureSourceBinding_rules {source : DataSource}
    (here : (s.ensureSourceBinding source key).bindings key' = some b') :
    (∃ b, s.bindings key' = some b ∧ b'.signatures = b.signatures ∧ (key' ≠ key → b'.active = b.active)) ∨
      (key' = key ∧ s.bindings key = none ∧ b'.signatures = []) := by
  unfold ensureSourceBinding at here
  split at here
  · next b found =>
    split at here
    · exact .inl ⟨b', here, rfl, fun _ => rfl⟩
    · rw [setBinding_bindings] at here
      by_cases same : key' = key
      · rw [if_pos same, Option.some.injEq] at here
        subst here
        exact .inl ⟨b, same ▸ found, rfl, fun other => absurd same other⟩
      · rw [if_neg same] at here
        exact .inl ⟨b', here, rfl, fun _ => rfl⟩
  · next absent =>
    rw [setBinding_bindings] at here
    by_cases same : key' = key
    · rw [if_pos same, Option.some.injEq] at here
      subst here
      exact .inr ⟨same, absent, rfl⟩
    · rw [if_neg same] at here
      exact .inl ⟨b', here, rfl, fun _ => rfl⟩

theorem setBinding_present (present : s.bindings key' ≠ none) : (s.setBinding key b).bindings key' ≠ none := by
  rw [setBinding_bindings]
  split
  · exact Option.some_ne_none b
  · exact present

theorem unteachBinding_present (present : s.bindings key' ≠ none) : (s.unteachBinding key o).bindings key' ≠ none := by
  unfold unteachBinding
  dsimp only
  split
  · exact present
  · split
    · split
      · exact setBinding_present present
      · exact present
    · exact present

theorem teachBinding_present (present : s.bindings key' ≠ none) : (s.teachBinding key o).bindings key' ≠ none := by
  unfold teachBinding
  dsimp only
  split
  · exact present
  · split
    · exact setBinding_present present
    · exact present

theorem ensureSourceBinding_present {source : DataSource} (present : s.bindings key' ≠ none) :
    (s.ensureSourceBinding source key).bindings key' ≠ none := by
  unfold ensureSourceBinding
  split
  · split
    · exact present
    · exact setBinding_present present
  · exact setBinding_present present

theorem ensureSourceBinding_here {source : DataSource} : (s.ensureSourceBinding source key).bindings key ≠ none := by
  unfold ensureSourceBinding
  split
  · next found =>
    split
    · rw [found]; exact Option.some_ne_none _
    · rw [setBinding_bindings, if_pos rfl]; exact Option.some_ne_none _
  · rw [setBinding_bindings, if_pos rfl]; exact Option.some_ne_none _

/-! ## Samples, assets and links -/

/-- Only samples, assets and links are written, and every sample keeps its asset, every asset its path. -/
structure OnlyFiling (s s' : RoutingState) : Prop where
  observations : s'.observations = s.observations
  decisions : s'.decisions = s.decisions
  dataSources : s'.dataSources = s.dataSources
  bindings : s'.bindings = s.bindings
  samples : ∀ key, (s'.samples.get? key).map (·.rawData) = (s.samples.get? key).map (·.rawData)
  assets : ∀ key, (s'.assets key).map (·.ptahId) = (s.assets key).map (·.ptahId)

theorem OnlyFiling.refl : OnlyFiling s s := ⟨rfl, rfl, rfl, rfl, fun _ => rfl, fun _ => rfl⟩

theorem OnlyFiling.trans {s'' : RoutingState} (first : OnlyFiling s s') (next : OnlyFiling s' s'') :
    OnlyFiling s s'' where
  observations := next.observations.trans first.observations
  decisions := next.decisions.trans first.decisions
  dataSources := next.dataSources.trans first.dataSources
  bindings := next.bindings.trans first.bindings
  samples key := (next.samples key).trans (first.samples key)
  assets key := (next.assets key).trans (first.assets key)

variable {key id projectId envId id' : String} {sample : RequestSample} {asset : RawData}
  {link : ProjectAssetLink} {key' : LinkKey}

theorem setSample_only {stored : RequestSample} (found : s.samples.get? key = some stored)
    (same : sample.rawData = stored.rawData) : OnlyFiling s (s.setSample key sample) where
  observations := rfl
  decisions := rfl
  dataSources := rfl
  bindings := rfl
  samples other := by
    rw [setSample, Mapping.get?_set]
    split
    · next here => rw [← here, found, Option.map_some, Option.map_some, same]
    · rfl
  assets _ := rfl

theorem setAsset_only {stored : RawData} (found : s.assets key = some stored)
    (same : asset.ptahId = stored.ptahId) : OnlyFiling s (s.setAsset key asset) where
  observations := rfl
  decisions := rfl
  dataSources := rfl
  bindings := rfl
  samples _ := rfl
  assets other := by
    simp only [setAsset, Function.update_apply]
    split
    · next here => rw [here, found, Option.map_some, Option.map_some, same]
    · rfl

theorem setLink_only {key : LinkKey} : OnlyFiling s (s.setLink key link) :=
  ⟨rfl, rfl, rfl, rfl, fun _ => rfl, fun _ => rfl⟩

theorem leaveLink_only {key : LinkKey} {relationship : String} : OnlyFiling s (s.leaveLink key id relationship) := by
  unfold leaveLink
  split
  · exact setLink_only
  · exact .refl

theorem joinLink_only {key : LinkKey} : OnlyFiling s (s.joinLink key id) := setLink_only

theorem releaseSample_only {sampleId : String}
    (found : s.samples.get? sampleId = some sample) : OnlyFiling s (s.releaseSample sampleId sample projectId) := by
  unfold releaseSample
  split
  · exact setSample_only found rfl
  · exact .refl

theorem releaseAsset_only (found : s.assets key = some asset) :
    OnlyFiling s (s.releaseAsset key asset projectId) := by
  unfold releaseAsset
  split
  · exact setAsset_only found rfl
  · exact .refl

theorem claimAsset_only {run previous : String} {loaded : RawData} :
    OnlyFiling s (s.claimAsset key loaded run projectId envId previous) := by
  unfold claimAsset
  split
  · split
    · next found => exact setAsset_only found rfl
    · exact .refl
  · exact .refl

theorem claimSample_only {loaded stored : RequestSample}
    (found : s.samples.get? o.sampleId = some stored) : OnlyFiling s (s.claimSample o loaded projectId envId) := by
  refine setSample_only found ?_
  rw [found, Option.getD_some]

/-! ## Links -/

/-- The path of the asset that the sample of an observation has. -/
def assetPath (s : RoutingState) (o : RequestObservation) : Option Int :=
  (s.sampleOf o).bind fun sample => (s.assetOf sample).map (·.2.ptahId)

def Lists (s : RoutingState) (key : LinkKey) (id : String) : Prop :=
  ∃ link, s.links key = some link ∧ id ∈ link.observationIds

theorem assetPath_eq (s : RoutingState) (o : RequestObservation) : s.assetPath o =
    (if o.sampleId = "" then none else (s.samples.get? o.sampleId).map (·.rawData)).bind
      fun asset => asset.bind fun key => (s.assets key).map (·.ptahId) := by
  unfold assetPath sampleOf assetOf
  by_cases unsampled : o.sampleId = ""
  · simp [unsampled]
  · simp only [unsampled, beq_iff_eq, ↓reduceIte]
    cases s.samples.get? o.sampleId with
    | none => rfl
    | some sample =>
      simp only [Option.map_some, Option.bind_some]
      cases sample.rawData with
      | none => rfl
      | some key =>
        simp only [Option.bind_some]
        cases s.assets key <;> rfl

/-- Filing moves no sample to another asset, and no asset to another path. -/
theorem OnlyFiling.assetPath (only : OnlyFiling s s') (o : RequestObservation) : s'.assetPath o = s.assetPath o := by
  rw [assetPath_eq, assetPath_eq, only.samples]
  congr 1
  funext asset
  cases asset with
  | none => rfl
  | some key => exact only.assets key

theorem assetPath_congr (samples : s'.samples = s.samples) (assets : s'.assets = s.assets) (o : RequestObservation) :
    s'.assetPath o = s.assetPath o := by
  unfold assetPath sampleOf assetOf
  rw [samples, assets]

theorem setLink_lists {key : LinkKey}
    (lists : (s.setLink key link).Lists key' id) :
    (key' ≠ key ∧ s.Lists key' id) ∨ (key' = key ∧ id ∈ link.observationIds) := by
  obtain ⟨found, here, mem⟩ := lists
  simp only [setLink, Function.update_apply] at here
  split at here
  · next same =>
    rw [Option.some.injEq] at here
    exact .inr ⟨same, here ▸ mem⟩
  · next other => exact .inl ⟨other, found, here, mem⟩

theorem detachLink_mem {relationship : String}
    (mem : id' ∈ (detachLink link id relationship).observationIds) : id' ∈ link.observationIds ∧ id' ≠ id := by
  unfold detachLink at mem
  dsimp only at mem
  split at mem
  · exact absurd mem List.not_mem_nil
  · obtain ⟨listed, other⟩ := List.mem_filter.mp mem
    exact ⟨listed, bne_iff_ne.mp other⟩

theorem leaveLink_lists {key : LinkKey} {relationship : String}
    (lists : (s.leaveLink key id relationship).Lists key' id') : s.Lists key' id' ∧ ¬(key' = key ∧ id' = id) := by
  unfold leaveLink at lists
  split at lists
  · next link found =>
    rcases setLink_lists lists with ⟨other, lists⟩ | ⟨rfl, mem⟩
    · exact ⟨lists, fun h => other h.1⟩
    · obtain ⟨listed, other⟩ := detachLink_mem mem
      exact ⟨⟨link, found, listed⟩, fun h => other h.2⟩
  · next absent =>
    refine ⟨lists, ?_⟩
    rintro ⟨rfl, -⟩
    obtain ⟨link, found, -⟩ := lists
    rw [absent] at found
    cases found

/-- A link that an observation was added to lists that one more. -/
theorem setLink_joined {key : LinkKey}
    (joined : link.observationIds =
      if (((s.links key).map (·.observationIds)).getD []).contains id then ((s.links key).map (·.observationIds)).getD []
      else ((s.links key).map (·.observationIds)).getD [] ++ [id])
    (lists : (s.setLink key link).Lists key' id') : s.Lists key' id' ∨ (key' = key ∧ id' = id) := by
  rcases setLink_lists lists with ⟨-, lists⟩ | ⟨rfl, mem⟩
  · exact .inl lists
  · have listed : id' ∈ ((s.links key').map (·.observationIds)).getD [] → s.Lists key' id' := by
      intro mem
      cases found : s.links key' with
      | none =>
        rw [found] at mem
        exact absurd mem List.not_mem_nil
      | some link =>
        rw [found] at mem
        exact ⟨link, found, mem⟩
    rw [joined] at mem
    split at mem
    · exact .inl (listed mem)
    · rcases List.mem_append.mp mem with mem | mem
      · exact .inl (listed mem)
      · exact .inr ⟨rfl, List.mem_singleton.mp mem⟩

theorem joinLink_lists {key : LinkKey} (lists : (s.joinLink key id).Lists key' id') :
    s.Lists key' id' ∨ (key' = key ∧ id' = id) := setLink_joined rfl lists

theorem lists_of_links {key : LinkKey} (same : s'.links = s.links) (lists : s'.Lists key id) :
    s.Lists key id := by
  unfold Lists at *
  rwa [← same]

theorem releaseSample_links {sampleId : String} :
    (s.releaseSample sampleId sample projectId).links = s.links := by
  unfold releaseSample
  split <;> rfl

theorem releaseSample_assets {sampleId : String} :
    (s.releaseSample sampleId sample projectId).assets = s.assets := by
  unfold releaseSample
  split <;> rfl

theorem releaseAsset_links :
    (s.releaseAsset key asset projectId).links = s.links := by
  unfold releaseAsset
  split <;> rfl

theorem claimAsset_links {run previous : String} {loaded : RawData} :
    (s.claimAsset key loaded run projectId envId previous).links = s.links := by
  unfold claimAsset
  split
  · split <;> rfl
  · rfl

theorem claimAsset_samples {run previous : String} {loaded : RawData} :
    (s.claimAsset key loaded run projectId envId previous).samples = s.samples := by
  unfold claimAsset
  split
  · split <;> rfl
  · rfl

/-- An asset that was found is stored under its key. -/
theorem assetOf_some
    (found : s.assetOf sample = some (key, asset)) : s.assets key = some asset := by
  unfold assetOf at found
  obtain ⟨key', -, found⟩ := Option.bind_eq_some_iff.mp found
  obtain ⟨asset', stored, same⟩ := Option.map_eq_some_iff.mp found
  obtain ⟨rfl, rfl⟩ := Prod.mk.inj same
  exact stored

theorem sampleOf_some (found : s.sampleOf o = some sample) :
    s.samples.get? o.sampleId = some sample := by
  unfold sampleOf at found
  split at found
  · cases found
  · exact found

theorem assetPath_some (sampled : s.sampleOf o = some sample)
    (found : s.assetOf sample = some (key, asset)) : s.assetPath o = some asset.ptahId := by
  rw [assetPath, sampled, Option.bind_some, found, Option.map_some]

/-- Detaching takes the observation off the one link it names. -/
theorem detachOldAssetLink_spec (projectId envId relationship : String) :
    OnlyFiling s (s.detachOldAssetLink o projectId envId relationship) ∧
      ∀ key id, (s.detachOldAssetLink o projectId envId relationship).Lists key id → s.Lists key id ∧
        ∀ pathid, s.assetPath o = some pathid → ¬(key = ⟨projectId, pathid, envId⟩ ∧ id = o.observationId) := by
  unfold detachOldAssetLink
  split
  · next unsampled =>
    refine ⟨.refl, fun key id lists => ⟨lists, fun pathid path => ?_⟩⟩
    rw [assetPath, unsampled] at path
    cases path
  · next sample sampled =>
    split
    · next unfiled =>
      refine ⟨.refl, fun key id lists => ⟨lists, fun pathid path => ?_⟩⟩
      rw [assetPath, sampled, Option.bind_some, unfiled] at path
      cases path
    · next assetKey asset filed =>
      have stored := assetOf_some filed
      constructor
      · refine (releaseSample_only (sampleOf_some sampled)).trans ((releaseAsset_only ?_).trans leaveLink_only)
        rw [releaseSample_assets, stored]
      · intro key id lists
        obtain ⟨lists, other⟩ := leaveLink_lists lists
        refine ⟨lists_of_links (releaseAsset_links.trans releaseSample_links) lists, fun pathid path => ?_⟩
        rw [assetPath_some sampled filed, Option.some.injEq] at path
        subst path
        exact other

/-- Promoting lists the observation under its new project and environment, after it was taken off the link of
another project. -/
theorem promoteExistingSample_spec (projectId envId previousProjectId previousEnvId : String) :
    OnlyFiling s (s.promoteExistingSample o projectId envId previousProjectId previousEnvId).2 ∧
      ∀ key id, (s.promoteExistingSample o projectId envId previousProjectId previousEnvId).2.Lists key id →
        (s.Lists key id ∧ ∀ pathid, s.assetPath o = some pathid → previousProjectId ≠ "" →
          previousProjectId ≠ projectId →
          ¬(key = ⟨previousProjectId, pathid, previousEnvId⟩ ∧ id = o.observationId)) ∨
        (∃ pathid, s.assetPath o = some pathid ∧ key = ⟨projectId, pathid, envId⟩ ∧ id = o.observationId) := by
  have detached := detachOldAssetLink_spec (s := s) (o := o) previousProjectId previousEnvId "superseded"
  unfold promoteExistingSample
  split
  · next unsampled =>
    refine ⟨.refl, fun key id lists => .inl ⟨lists, fun pathid path => ?_⟩⟩
    rw [assetPath, unsampled] at path
    cases path
  · next sample sampled =>
    dsimp only
    have first : ∃ moved, moved = (if previousProjectId != "" && previousProjectId != projectId then
        s.detachOldAssetLink o previousProjectId previousEnvId "superseded" else s) ∧ OnlyFiling s moved ∧
        ∀ key id, moved.Lists key id → s.Lists key id ∧ ∀ pathid, s.assetPath o = some pathid →
          previousProjectId ≠ "" → previousProjectId ≠ projectId →
          ¬(key = ⟨previousProjectId, pathid, previousEnvId⟩ ∧ id = o.observationId) := by
      refine ⟨_, rfl, ?_⟩
      split
      · refine ⟨detached.1, fun key id lists => ?_⟩
        obtain ⟨lists, other⟩ := detached.2 key id lists
        exact ⟨lists, fun pathid path _ _ => other pathid path⟩
      · next stays =>
        refine ⟨.refl, fun key id lists => ⟨lists, fun pathid _ named other => ?_⟩⟩
        exact absurd (Bool.and_eq_true_iff.mpr ⟨bne_iff_ne.mpr named, bne_iff_ne.mpr other⟩) stays
    obtain ⟨moved, is, only, lists⟩ := first
    rw [← is]
    have kept : ∃ stored, moved.samples.get? o.sampleId = some stored := by
      have same := only.samples o.sampleId
      rw [sampleOf_some sampled, Option.map_some, Option.map_eq_some_iff] at same
      obtain ⟨stored, found, -⟩ := same
      exact ⟨stored, found⟩
    obtain ⟨stored, found⟩ := kept
    split
    · exact ⟨only.trans (claimSample_only found), fun key id listed => .inl (lists key id listed)⟩
    · next assetKey asset filed =>
      constructor
      · have claimed : (moved.claimAsset assetKey asset o.importRunId projectId envId
            previousProjectId).samples.get? o.sampleId = some stored := by rw [claimAsset_samples, found]
        exact only.trans (claimAsset_only.trans ((claimSample_only claimed).trans joinLink_only))
      · intro key id listed
        rcases joinLink_lists listed with listed | ⟨rfl, rfl⟩
        · exact .inl (lists key id (lists_of_links claimAsset_links listed))
        · exact .inr ⟨asset.ptahId, assetPath_some sampled filed, rfl, rfl⟩

end RoutingState
end ApiManger.Routing
