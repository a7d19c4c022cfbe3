import Mathlib.Tactic.Tauto
import ApiManger.Interleaving.RelyGuarantee
import ApiManger.Projects.Sources

/-!
# One project for a source

Calls for a source that was unknown agree on one project, and a call that raises leaves none
behind, as long as only one of them finds no binding and the environment is one of the new
project. A second call that finds no binding makes a second project; and a call with an
environment raises once its project is saved.
-/

namespace ApiManger.Projects
open Python Routing Interleaving

variable {out : ProjectOutside} {key : SourceKey} {store : ProjectStore}

/-- The type and the id of the document for a source. -/
def SourceKey.sourceType (key : SourceKey) : String := lower (stripped key.type)
def SourceKey.externalId (key : SourceKey) : String := stripped key.id

/-- Its `data_source_id`. -/
def SourceKey.dataSourceId (key : SourceKey) (out : ProjectOutside) : String :=
  out.identity key.sourceType key.externalId

def Binds (out : ProjectOutside) (key : SourceKey) (b : BindingContent) : Prop :=
  b.dataSourceId = key.dataSourceId out ∨ (b.sourceType = key.type ∧ b.sourceId = key.id)

/-- The source is not on record, and no binding names it. -/
structure Unknown (out : ProjectOutside) (key : SourceKey) (s : ProjectStore) : Prop where
  source : ∀ x ∈ s.sources, ¬(x.sourceType = key.sourceType ∧ x.externalId = key.externalId)
  bindings : ∀ b ∈ s.bindings, ¬Binds out key b.toBindingContent

/-- No project has one of the uuids to come. -/
def Unused (out : ProjectOutside) (s : ProjectStore) : Prop := ∀ n, ∀ p ∈ s.projects, p.projectId ≠ out.uuid n

/-- What a run of calls keeps: the calls that return answer the same project, there is one new project at most,
and a call that raises has made none. -/
structure OneProject (store : ProjectStore) (s : ProjectState) : Prop where
  same : ∀ t a u b, (t, .ok a) ∈ s.answers → (u, .ok b) ∈ s.answers → a.projectId = b.projectId
  created : ∃ made, s.store.projects = store.projects ++ made ∧ made.length ≤ 1
  raised : ∀ t e, (t, .error e) ∈ s.answers → t ∉ s.creators

/-! ## The invariant -/

/-- The documents of the source are those of one creator. -/
structure Settled (out : ProjectOutside) (key : SourceKey) (store : ProjectStore) (s : ProjectState) : Prop where
  sources : ∀ x ∈ s.store.sources, x.sourceType = key.sourceType → x.externalId = key.externalId →
    x.dataSourceId = key.dataSourceId out
  bindings : ∀ b ∈ s.store.bindings, Binds out key b.toBindingContent →
    b.dataSourceId = key.dataSourceId out ∧ b.projectId = out.uuid 0
  bound : s.creators = [] → ∀ b ∈ s.store.bindings, ¬Binds out key b.toBindingContent
  untouched : s.creator = none → s.creators = [] ∧ s.uuids = 0
  projects : ∃ made, s.store.projects = store.projects ++ made ∧ made.length = s.creators.length
  single : s.creators.length ≤ 1
  answers : ∀ t a, (t, .ok a) ∈ s.answers → a.projectId = out.uuid 0
  raised : ∀ t e, (t, .error e) ∈ s.answers → t ∉ s.creators

/-- The source is on record. -/
def Known (out : ProjectOutside) (key : SourceKey) (s : ProjectState) : Prop :=
  ∃ x ∈ s.store.sources, x.dataSourceId = key.dataSourceId out

/-- A call that made no project and has not ended. -/
def Idle (t : ℕ) (s : ProjectState) : Prop := t ∉ s.creators ∧ ∀ r, (t, r) ∉ s.answers

/-- The call that found no binding: the uuids it took, and the projects it made. -/
structure Creating (out : ProjectOutside) (key : SourceKey) (store : ProjectStore) (t n : ℕ) (made : List ApiProject)
    (s : ProjectState) : Prop where
  known : Known out key s
  creator : s.creator = some t
  uuids : s.uuids = n
  creators : s.creators = made.map fun _ => t
  projects : s.store.projects = store.projects ++ made
  unbound : ∀ b ∈ s.store.bindings, ¬Binds out key b.toBindingContent
  running : ∀ r, (t, r) ∉ s.answers

/-- A lookup finds no binding once only, and an environment is one of the project. -/
def orderly (out : ProjectOutside) (key : SourceKey) : Guard (projectDesk out key) where
  start _ _ _ := true
  op _ o _ s := match o with
    | ProjectOp.legacyBinding type id env project =>
      (ProjectStore.legacyBinding s.store type id env project).isSome || s.creator.isNone
    | ProjectOp.activeEnvironment id env => s.store.environments.contains (id, env)
    | _ => true

/-- A call keeps sources on record, makes and ends nothing for others, and leaves the creator's documents alone. -/
structure Leaves (u : Option ℕ) (s s' : ProjectState) : Prop where
  sources : ∀ x ∈ s.store.sources, ∃ y ∈ s'.store.sources, y.dataSourceId = x.dataSourceId
  idle : ∀ t, u ≠ some t → Idle t s → Idle t s'
  own : ∀ t, u ≠ some t → s.creator = some t → s'.creator = some t ∧ s'.uuids = s.uuids ∧ s'.creators = s.creators ∧
    s'.store.projects = s.store.projects ∧ s'.store.bindings = s.store.bindings
  running : ∀ t, u ≠ some t → (∀ r, (t, r) ∉ s.answers) → ∀ r, (t, r) ∉ s'.answers

/-- The contract of a call. -/
def deskContract (out : ProjectOutside) (key : SourceKey) (store : ProjectStore) :
    Contract (projectDesk out key) where
  guard := orderly out key
  known _ := True
  inv := Settled out key store
  guar := Leaves
  before := Idle

/-! ## The writes -/

section
variable {s : ProjectState} {t : ℕ}

theorem Leaves.refl (u : Option ℕ) (s : ProjectState) : Leaves u s s :=
  ⟨fun x mem => ⟨x, mem, rfl⟩, fun _ _ idle => idle, fun _ _ own => ⟨own, rfl, rfl, rfl, rfl⟩,
    fun _ _ running => running⟩

/-- A new source. -/
theorem Settled.insertSource (h : Settled out key store s) {x : DataSource}
    (filed : x.dataSourceId = key.dataSourceId out) :
    Settled out key store { s with store := { s.store with sources := s.store.sources ++ [x] } } := by
  refine { h with sources := fun y mem type id => ?_ }
  rcases List.mem_append.mp mem with old | new
  · exact h.sources y old type id
  · rw [List.mem_singleton.mp new]
    exact filed

/-- An update of texts of a source. -/
theorem Settled.saveSource (h : Settled out key store s) (id : String) (f : DataSource → DataSource)
    (type : ∀ x, (f x).sourceType = x.sourceType) (external : ∀ x, (f x).externalId = x.externalId)
    (same : ∀ x, (f x).dataSourceId = x.dataSourceId) :
    Settled out key store { s with store := s.store.updateSource id f } := by
  refine { h with sources := fun y mem => ?_ }
  obtain ⟨x, old, rfl⟩ := List.mem_map.mp mem
  have kept := h.sources x old
  split
  · rwa [type, external, same]
  · exact kept

/-- The first lookup that finds nothing. -/
theorem Settled.begins (h : Settled out key store s) : Settled out key store { s with creator := some t } :=
  { h with untouched := fun none => nomatch none }

theorem Settled.uuid {n : ℕ} {made : List ApiProject} (h : Settled out key store s)
    (creating : Creating out key store t n made s) : Settled out key store { s with uuids := s.uuids + 1 } :=
  { h with untouched := fun none => nomatch creating.creator.symm.trans none }

/-- The project of the creator. -/
theorem Settled.insertProject {n : ℕ} (h : Settled out key store s) (creating : Creating out key store t n [] s)
    (p : ApiProject) :
    Settled out key store { s with
      store := { s.store with projects := s.store.projects ++ [p] }, creators := t :: s.creators } := by
  have first : s.creators = [] := creating.creators
  refine { h with
    bound := fun none => nomatch none
    untouched := fun none => nomatch creating.creator.symm.trans none
    projects := ⟨[p], ?_, ?_⟩, single := ?_, raised := fun u e mem => ?_ }
  · dsimp only
    rw [creating.projects, List.append_nil]
  · simp [first]
  · simp [first]
  · rw [first, List.mem_singleton]
    rintro rfl
    exact creating.running _ mem

/-- The binding of the creator. -/
theorem Settled.insertBinding {n : ℕ} {made : List ApiProject} (h : Settled out key store s)
    (creating : Creating out key store t n made s) (some_ : made ≠ []) {c : BindingContent}
    (source : c.dataSourceId = key.dataSourceId out) (project : c.projectId = out.uuid 0) :
    Settled out key store { s with store := { s.store with
      bindings := s.store.bindings ++ [⟨c, s.store.nextBinding⟩], nextBinding := s.store.nextBinding + 1 } } := by
  refine { h with bindings := fun b mem binds => ?_, bound := fun none => ?_ }
  · rcases List.mem_append.mp mem with old | new
    · exact h.bindings b old binds
    · rw [List.mem_singleton.mp new]
      exact ⟨source, project⟩
  · rw [creating.creators] at none
    exact absurd (List.map_eq_nil_iff.mp none) some_

/-- A call ends. -/
theorem Settled.answer (h : Settled out key store s) {result : Except PyError ProjectAnswer}
    (ok : ∀ a, result = .ok a → a.projectId = out.uuid 0) (error : ∀ e, result = .error e → t ∉ s.creators) :
    Settled out key store { s with answers := (t, result) :: s.answers } := by
  refine { h with answers := fun u a mem => ?_, raised := fun u e mem => ?_ }
  · rcases List.mem_cons.mp mem with here | old
    · exact ok a (congrArg Prod.snd here).symm
    · exact h.answers u a old
  · rcases List.mem_cons.mp mem with here | old
    · rw [show u = t from congrArg Prod.fst here]
      exact error e (congrArg Prod.snd here).symm
    · exact h.raised u e old

end

/-! ## Assertions of a call -/

section
variable (t : ℕ)

theorem idle_stable : (deskContract out key store).Stable t (Idle t) :=
  fun _ other _ _ _ _ _ _ leaves idle => leaves.idle t other idle

theorem known_stable : (deskContract out key store).Stable t (Known out key) := by
  rintro u - s s' - - - - leaves ⟨x, mem, filed⟩
  obtain ⟨y, mem', same⟩ := leaves.sources x mem
  exact ⟨y, mem', same.trans filed⟩

theorem creating_stable (n : ℕ) (made : List ApiProject) :
    (deskContract out key store).Stable t (Creating out key store t n made) := by
  intro u other s s' known known' inv inv' leaves creating
  obtain ⟨creator, uuids, creators, projects, bindings⟩ := leaves.own t other creating.creator
  refine ⟨known_stable t u other s s' known known' inv inv' leaves creating.known, creator,
    uuids.trans creating.uuids, creators.trans creating.creators, projects.trans creating.projects, ?_,
    leaves.running t other creating.running⟩
  rw [bindings]
  exact creating.unbound

end

/-! ## The operations -/

section
variable (t : ℕ) {E : PyError → ProjectState → Prop}

theorem read_safe {o : ProjectOp} {φ : ProjectState → Prop} {R : o.Ret → ProjectState → Prop}
    (f : ProjectState → o.Ret) (reads : ∀ s, execProject out t o s = (.ok (f s), s))
    (stable : ∀ a, (deskContract out key store).Stable t (R a))
    (gives : ∀ s i, Settled out key store s → (orderly out key).op t o i s = true → φ s → R (f s) s) :
    (deskContract out key store).Safe t φ (perform o) R E := by
  refine Contract.Safe.answering stable ?_
  rintro s i r s' - inv now admitted exec -
  cases (Option.some.inj exec).symm.trans (reads s)
  exact ⟨inv, Leaves.refl _ s, f s, rfl, gives s i inv admitted now⟩

/-- The source that a lookup finds has the id of the key. -/
theorem findSource_safe : (deskContract out key store).Safe t (Idle t)
    (perform (.findSource key.sourceType key.externalId))
    (fun found s => Idle t s ∧ ∀ x, found = some x → x.dataSourceId = key.dataSourceId out ∧ Known out key s) E := by
  refine read_safe t (fun s => s.store.findSource key.sourceType key.externalId) (fun _ => rfl) (fun _ => ?_) ?_
  · exact (idle_stable t).and (Contract.Stable.all fun _ => Contract.Stable.imp (Contract.Stable.const.and (known_stable t)))
  · intro s _ inv _ idle
    refine ⟨idle, fun x found => ?_⟩
    obtain ⟨mem, type, external⟩ := s.store.findSource_some found
    have filed := inv.sources x mem type external
    exact ⟨filed, x, mem, filed⟩

theorem insertSource_safe {x : DataSource} (filed : x.dataSourceId = key.dataSourceId out) :
    (deskContract out key store).Safe t (Idle t) (perform (.insertSource x))
      (fun _ s => Idle t s ∧ Known out key s) (fun _ => Idle t) := by
  refine Contract.Safe.perform (fun _ => (idle_stable t).and (known_stable t)) (fun _ => idle_stable t) ?_
  rintro s i r s' - inv idle - exec -
  simp only [projectDesk, execProject] at exec
  split at exec
  · cases exec
    exact ⟨inv, Leaves.refl _ s, idle⟩
  · cases exec
    refine ⟨inv.insertSource filed, ?_, idle, x, List.mem_append_right _ (.head _), filed⟩
    exact { Leaves.refl (some t) s with
      sources := fun y mem => ⟨y, List.mem_append_left _ mem, rfl⟩ }

theorem saveSource_safe (id : String) (name workspaceId : Option String) :
    (deskContract out key store).Safe t (fun s => Idle t s ∧ Known out key s) (perform (.saveSource id name workspaceId))
      (fun _ s => Idle t s ∧ Known out key s) E := by
  refine Contract.Safe.answering (fun _ => (idle_stable t).and (known_stable t)) ?_
  rintro s i r s' - inv ⟨idle, x, mem, filed⟩ - exec -
  cases exec
  have kept : ∀ y ∈ s.store.sources, ∃ z ∈ (s.store.updateSource id fun x =>
      { x with name := name.getD x.name, workspaceId := workspaceId.getD x.workspaceId }).sources,
      z.dataSourceId = y.dataSourceId := by
    intro y mem
    refine ⟨_, List.mem_map.mpr ⟨y, mem, rfl⟩, ?_⟩
    split <;> rfl
  obtain ⟨z, memZ, same⟩ := kept x mem
  exact ⟨inv.saveSource id _ (fun _ => rfl) (fun _ => rfl) fun _ => rfl,
    { Leaves.refl (some t) s with sources := kept }, (), rfl, idle, z, memZ, same.trans filed⟩

theorem updateSource_safe (c : Bool) (id : String) (name workspaceId : Option String) :
    (deskContract out key store).Safe t (fun s => Idle t s ∧ Known out key s)
      (Prog.when c (perform (.saveSource id name workspaceId))) (fun _ s => Idle t s ∧ Known out key s) E := by
  cases c with
  | true => exact saveSource_safe t id name workspaceId
  | false => exact Contract.Safe.ret fun _ _ _ now => now

theorem fileSource_safe (name workspaceId : String) : (deskContract out key store).Safe t (Idle t)
    (fileSource out.identity key.sourceType key.externalId name workspaceId)
    (fun x s => x.dataSourceId = key.dataSourceId out ∧ Idle t s ∧ Known out key s) (fun _ => Idle t) := by
  refine Contract.Safe.bind (findSource_safe t) fun found => ?_
  cases found with
  | none =>
    refine Contract.Safe.bind ((insertSource_safe t rfl).pre fun _ _ _ now => now.1) fun _ => ?_
    exact Contract.Safe.ret fun _ _ _ now => ⟨rfl, now⟩
  | some x =>
    refine Contract.Safe.pre (φ := fun s => x.dataSourceId = key.dataSourceId out ∧ Idle t s ∧ Known out key s) ?_
      fun s _ _ now => ⟨(now.2 x rfl).1, now.1, (now.2 x rfl).2⟩
    refine Contract.Safe.assume fun filed => ?_
    exact Contract.Safe.bind (updateSource_safe t _ _ _ _) fun _ => Contract.Safe.ret fun _ _ _ now => ⟨filed, now⟩

/-- The source is on record after `ensure_data_source`. -/
theorem ensureDataSource_safe (name workspaceId : String) : (deskContract out key store).Safe t (Idle t)
    (ensureDataSource out.identity key.type key.id name workspaceId)
    (fun x s => x.dataSourceId = key.dataSourceId out ∧ Idle t s ∧ Known out key s) (fun _ => Idle t) := by
  unfold ensureDataSource
  generalize (lower (stripped key.type) == "" || stripped key.id == "") = missing
  cases missing with
  | true => exact Contract.Safe.raise fun _ _ _ idle => idle
  | false => exact fileSource_safe t name workspaceId

/-- A binding of the source is one of the creator. -/
theorem sourceBinding_safe (env : String) (project : Option String) :
    (deskContract out key store).Safe t (fun s => Idle t s ∧ Known out key s)
      (perform (.sourceBinding (key.dataSourceId out) env project))
      (fun found s => (Idle t s ∧ Known out key s) ∧ ∀ b, found = some b → b.projectId = out.uuid 0) E := by
  refine read_safe t (fun s => s.store.sourceBinding (key.dataSourceId out) env project) (fun _ => rfl) (fun _ => ?_) ?_
  · exact ((idle_stable t).and (known_stable t)).and Contract.Stable.const
  · intro s _ inv _ now
    refine ⟨now, fun b found => ?_⟩
    obtain ⟨mem, filed⟩ := ProjectStore.sourceBinding_some found
    exact (inv.bindings b mem (.inl filed)).2

/-- A lookup that finds nothing makes the call the creator. -/
theorem legacyBinding_safe (env : String) (project : Option String) :
    (deskContract out key store).Safe t (fun s => Idle t s ∧ Known out key s)
      (perform (.legacyBinding key.type key.id env project))
      (fun legacy s => (∀ b, legacy = some b → b.dataSourceId ≠ "" ∧ b.projectId = out.uuid 0 ∧ Idle t s) ∧
        (legacy = none → Creating out key store t 0 [] s)) E := by
  refine Contract.Safe.answering (fun _ => ?_) ?_
  · refine Contract.Stable.and (Contract.Stable.all fun _ => Contract.Stable.imp ?_)
      (Contract.Stable.imp (creating_stable t 0 []))
    exact Contract.Stable.const.and (Contract.Stable.const.and (idle_stable t))
  · rintro s i r s' - inv ⟨idle, known⟩ admitted exec -
    simp only [projectDesk, execProject] at exec
    cases found : s.store.legacyBinding key.type key.id env project with
    | some b =>
      rw [found] at exec
      cases exec
      refine ⟨inv, Leaves.refl _ s, _, rfl, fun b' same => ?_, fun none => by cases none⟩
      cases same
      obtain ⟨mem, binds⟩ := ProjectStore.legacyBinding_some found
      obtain ⟨filed, named⟩ := inv.bindings b mem (.inr binds)
      exact ⟨filed ▸ out.identified _ _, named, idle⟩
    | none =>
      have first : s.creator = none := by
        simpa [deskContract, orderly, found] using admitted
      obtain ⟨noCreator, noUuid⟩ := inv.untouched first
      obtain ⟨made, projects, count⟩ := inv.projects
      have nothing : made = [] := List.eq_nil_of_length_eq_zero (by simpa [noCreator] using count)
      rw [found, first] at exec
      cases exec
      refine ⟨inv.begins, ?_, _, rfl, fun b same => (by cases same), fun _ => ?_⟩
      · exact { Leaves.refl (some t) s with own := fun u _ own => by cases first.symm.trans own }
      · exact ⟨known, rfl, noUuid, noCreator, nothing ▸ projects, inv.bound noCreator, idle.2⟩

variable {call : EnsureCall} {p : ApiProject}

/-- `existingBinding` answers a binding of the creator, or makes the call the creator. -/
theorem existingBinding_safe (same : call.key = key) {source : DataSource}
    (filed : source.dataSourceId = key.dataSourceId out) :
    (deskContract out key store).Safe t (fun s => Idle t s ∧ Known out key s) (call.existingBinding source)
      (fun found s => (∀ b, found = some b → b.projectId = out.uuid 0 ∧ Idle t s) ∧
        (found = none → Creating out key store t 0 [] s)) E := by
  subst same
  unfold EnsureCall.existingBinding
  rw [filed]
  refine Contract.Safe.bind (sourceBinding_safe t _ _) fun found => ?_
  cases found with
  | some b =>
    refine Contract.Safe.ret fun s _ _ now => ⟨fun b' here => ?_, fun none => nomatch none⟩
    cases here
    exact ⟨now.2 b rfl, now.1.1⟩
  | none =>
    refine Contract.Safe.bind ((legacyBinding_safe t _ _).pre fun _ _ _ now => now.1) fun legacy => ?_
    cases legacy with
    | none => exact Contract.Safe.ret fun s _ _ now => ⟨fun b here => (nomatch here), fun _ => now.2 rfl⟩
    | some b =>
      refine Contract.Safe.pre (φ := fun s => b.dataSourceId ≠ "" ∧ b.projectId = out.uuid 0 ∧ Idle t s) ?_
        fun s _ _ now => now.1 b rfl
      refine Contract.Safe.assume fun named => ?_
      have kept : (b.dataSourceId == "") = false := beq_eq_false_iff_ne.mpr named
      dsimp only
      rw [kept]
      refine Contract.Safe.ret fun s _ _ now => ⟨fun b' here => ?_, fun none => nomatch none⟩
      cases here
      exact now

theorem boundAnswer_safe {b : SourceBinding} :
    (deskContract out key store).Safe t (fun s => b.projectId = out.uuid 0 ∧ Idle t s) (EnsureCall.boundAnswer b)
      (fun a _ => a.projectId = out.uuid 0) E := by
  refine Contract.Safe.assume fun named => Contract.Safe.bind (Q := fun _ => Idle t) ?_ fun _ => ?_
  · exact read_safe t (fun s => s.store.project b.projectId) (fun _ => rfl) (fun _ => idle_stable t) fun _ _ _ _ idle => idle
  · exact Contract.Safe.ret fun _ _ _ _ => named

/-! ## The creator -/

theorem uuid_safe : (deskContract out key store).Safe t (Creating out key store t 0 []) (perform .uuid)
    (fun id s => id = out.uuid 0 ∧ Creating out key store t 1 [] s) E := by
  refine Contract.Safe.answering (fun _ => Contract.Stable.const.and (creating_stable t 1 [])) ?_
  rintro s i r s' - inv creating - exec -
  cases exec
  refine ⟨inv.uuid creating, ?_, _, rfl, congrArg out.uuid creating.uuids, ?_⟩
  · refine { Leaves.refl (some t) s with own := fun u other own => ?_ }
    exact absurd (Option.some.inj (creating.creator.symm.trans own)) fun same => other (congrArg some same)
  · exact { creating with uuids := congrArg (· + 1) creating.uuids }

/-- No project has the uuid of the creator. -/
theorem Creating.fresh {n : ℕ} {s : ProjectState} (creating : Creating out key store t n [] s)
    (unused : Unused out store) : s.store.project (out.uuid 0) = none := by
  refine List.find?_eq_none.mpr fun p mem hit => ?_
  rw [creating.projects, List.append_nil] at mem
  exact unused 0 p mem (beq_iff_eq.mp hit)

theorem insertProject_safe (unused : Unused out store) (named : p.projectId = out.uuid 0) :
    (deskContract out key store).Safe t (Creating out key store t 1 []) (perform (.insertProject p))
      (fun _ => Creating out key store t 1 [p]) E := by
  refine Contract.Safe.answering (fun _ => creating_stable t 1 [p]) ?_
  rintro s i r s' - inv creating - exec -
  have absent : (s.store.project p.projectId).isSome = false := by
    rw [named, creating.fresh t unused]
    rfl
  simp only [projectDesk, execProject, absent, Bool.false_eq_true, if_false] at exec
  cases exec
  have first : s.creators = [] := creating.creators
  refine ⟨inv.insertProject creating p, ?_, (), rfl, { creating with creators := ?_, projects := ?_ }⟩
  · refine { Leaves.refl (some t) s with idle := fun u other idle => ⟨?_, idle.2⟩, own := fun u other own => ?_ }
    · rw [first, List.mem_singleton]
      exact fun same => other (congrArg some same.symm)
    · exact absurd (Option.some.inj (creating.creator.symm.trans own)) fun same => other (congrArg some same)
  · dsimp only
    rw [first]
    rfl
  · dsimp only
    rw [creating.projects, List.append_nil]

/-- The project of the creator is new. -/
theorem ensureProject_safe (call : EnsureCall) (unused : Unused out store) :
    (deskContract out key store).Safe t (Creating out key store t 1 []) (call.ensureProject (out.uuid 0))
      (fun _ s => ∃ p : ApiProject, (p.projectId = out.uuid 0 ∧ p.active = true) ∧ Creating out key store t 1 [p] s) E := by
  refine Contract.Safe.bind
    (Q := fun found s => found = none ∧ Creating out key store t 1 [] s) ?_ fun found => Contract.Safe.assume fun none => ?_
  · exact read_safe t (fun s => s.store.project (out.uuid 0)) (fun _ => rfl)
      (fun _ => Contract.Stable.const.and (creating_stable t 1 [])) fun s _ _ _ creating => ⟨creating.fresh t unused, creating⟩
  · subst none
    refine Contract.Safe.bind (insertProject_safe t unused rfl) fun _ => ?_
    exact Contract.Safe.ret fun s _ _ now => ⟨_, ⟨rfl, rfl⟩, now⟩

/-- What the creator leaves: an answer with its project. -/
theorem insertBinding_safe {c : BindingContent} (source : c.dataSourceId = key.dataSourceId out)
    (project : c.projectId = out.uuid 0) :
    (deskContract out key store).Safe t (Creating out key store t 1 [p]) (perform (.insertBinding c))
      (fun _ _ => True) E := by
  refine Contract.Safe.answering (fun _ => Contract.Stable.const) ?_
  rintro s i r s' - inv creating - exec -
  have free : s.store.bindingTaken c = false := by
    refine List.any_eq_false.mpr fun b mem taken => creating.unbound b mem (.inl ?_)
    simp only [Bool.and_eq_true, beq_iff_eq] at taken
    exact taken.1.2.trans source
  simp only [projectDesk, execProject, free, Bool.false_eq_true, if_false] at exec
  cases exec
  refine ⟨inv.insertBinding creating (List.cons_ne_nil _ _) source project, ?_, _, rfl, trivial⟩
  refine { Leaves.refl (some t) s with own := fun u other own => ?_ }
  exact absurd (Option.some.inj (creating.creator.symm.trans own)) fun same => other (congrArg some same)

/-- The environment check of the creator passes. -/
theorem requireEnvironment_safe (made : List ApiProject) (projectId env : String) :
    (deskContract out key store).Safe t (Creating out key store t 1 made) (requireEnvironment projectId env)
      (fun _ => Creating out key store t 1 made) E := by
  unfold requireEnvironment
  refine Contract.Safe.ite (fun _ => ?_) fun _ => Contract.Safe.ret fun _ _ _ now => now
  refine Contract.Safe.bind (Q := fun (available : Bool) s => available = true ∧ Creating out key store t 1 made s) ?_
    fun available => Contract.Safe.assume fun here => ?_
  · exact read_safe t (fun s => s.store.environments.contains (projectId, env)) (fun _ => rfl)
      (fun _ => Contract.Stable.const.and (creating_stable t 1 made)) fun _ i _ admitted now => ⟨admitted, now⟩
  · subst here
    exact Contract.Safe.ret fun _ _ _ now => now

theorem ensureSourceBinding_safe (named : p.projectId = out.uuid 0) (live : p.active = true)
    (env : String) (rules : Dict) :
    (deskContract out key store).Safe t (Creating out key store t 1 [p])
      (ensureSourceBinding (key.dataSourceId out) (out.uuid 0) env rules) (fun _ _ => True) E := by
  have stable : (deskContract out key store).Stable t (Creating out key store t 1 [p]) := creating_stable t 1 [p]
  refine Contract.Safe.bind (Q := fun source s => (∃ x, source = some x ∧ x.dataSourceId = key.dataSourceId out) ∧
    Creating out key store t 1 [p] s) ?_ fun source => Contract.Safe.assume fun ⟨x, found, filed⟩ => ?_
  · refine read_safe t (fun s => s.store.source (key.dataSourceId out)) (fun _ => rfl)
      (fun _ => Contract.Stable.const.and stable) fun s _ _ _ creating => ⟨?_, creating⟩
    obtain ⟨x, mem, filed⟩ := creating.known
    have hit : (s.store.source (key.dataSourceId out)).isSome :=
      List.find?_isSome.mpr ⟨x, mem, beq_iff_eq.mpr filed⟩
    obtain ⟨y, found⟩ := Option.isSome_iff_exists.mp hit
    exact ⟨y, found, ProjectStore.source_some found⟩
  subst found
  refine Contract.Safe.bind (Q := fun project s => (∃ q, project = some q ∧ q.projectId = out.uuid 0) ∧
    Creating out key store t 1 [p] s) ?_ fun project => Contract.Safe.assume fun ⟨q, found, same⟩ => ?_
  · refine read_safe t (fun s => s.store.activeProject (out.uuid 0)) (fun _ => rfl)
      (fun _ => Contract.Stable.const.and stable) fun s _ _ _ creating => ⟨?_, creating⟩
    have mem : p ∈ s.store.projects := creating.projects ▸ List.mem_append_right _ (.head _)
    have hit : (s.store.activeProject (out.uuid 0)).isSome :=
      List.find?_isSome.mpr ⟨p, mem, by simp [named, live]⟩
    obtain ⟨q, found⟩ := Option.isSome_iff_exists.mp hit
    exact ⟨q, found, ProjectStore.activeProject_some found⟩
  subst found
  refine Contract.Safe.bind (requireEnvironment_safe t [p] _ _) fun _ => ?_
  refine Contract.Safe.bind (Q := fun found s => found = none ∧ Creating out key store t 1 [p] s) ?_
    fun found => Contract.Safe.assume fun none => ?_
  · refine read_safe t (fun s => s.store.binding q.projectId x.dataSourceId (stripped env)) (fun _ => rfl)
      (fun _ => Contract.Stable.const.and stable) fun s _ _ _ creating => ⟨?_, creating⟩
    refine Option.eq_none_iff_forall_not_mem.mpr fun b found => ?_
    obtain ⟨mem, its⟩ := ProjectStore.binding_some found
    exact creating.unbound b mem (.inl (its.trans filed))
  · subst none
    exact insertBinding_safe t filed same

theorem createProject_safe (unnamed : call.projectId = "") (unused : Unused out store)
    {source : DataSource} (filed : source.dataSourceId = key.dataSourceId out) :
    (deskContract out key store).Safe t (Creating out key store t 0 []) (call.createProject source)
      (fun a _ => a.projectId = out.uuid 0) E := by
  unfold EnsureCall.createProject
  rw [unnamed, filed]
  refine Contract.Safe.bind (uuid_safe t) fun id => Contract.Safe.assume fun new => ?_
  subst new
  refine Contract.Safe.bind (ensureProject_safe t call unused) fun name => ?_
  refine Contract.Safe.bind (Q := fun _ _ => True) ?_ fun _ => Contract.Safe.ret fun _ _ _ _ => rfl
  refine Contract.Safe.exists_ fun p => Contract.Safe.assume fun ⟨named, live⟩ => ?_
  exact ensureSourceBinding_safe t named live _ _

/-- A call answers the project of the creator, or has made none. -/
theorem ensureProjectForSource_safe (same : call.key = key) (unnamed : call.projectId = "")
    (unused : Unused out store) :
    (deskContract out key store).Safe t (Idle t) (call.ensureProjectForSource out.identity)
      (fun a _ => a.projectId = out.uuid 0) (fun _ => Idle t) := by
  unfold EnsureCall.ensureProjectForSource
  generalize (call.type == "" || call.id == "") = missing
  refine Contract.Safe.ite (fun _ => Contract.Safe.raise fun _ _ _ idle => idle) fun _ => ?_
  subst same
  have first : (deskContract out call.key store).Safe t (Idle t)
      (ensureDataSource out.identity call.type call.id call.projectName call.workspaceId)
      (fun x s => x.dataSourceId = call.key.dataSourceId out ∧ Idle t s ∧ Known out call.key s) (fun _ => Idle t) :=
    ensureDataSource_safe t _ _
  refine Contract.Safe.bind first fun source => Contract.Safe.assume fun filed => ?_
  refine Contract.Safe.bind (existingBinding_safe t rfl filed) fun found => ?_
  cases found with
  | some b => exact (boundAnswer_safe t).pre fun _ _ _ now => now.1 b rfl
  | none => exact (createProject_safe t unnamed unused filed).pre fun _ _ _ now => now.2 rfl

end

/-- **The contract holds** of every call. -/
theorem deskContract_holds (unused : Unused out store) : (deskContract out key store).Holds where
  waits := idle_stable
  start t call s p s' _ inv idle _ code _ := by
    obtain ⟨⟨same, unnamed⟩, rfl, rfl⟩ := projectDesk_start code
    refine ⟨inv, Leaves.refl _ _, _, idle_stable t, idle, ?_⟩
    refine Contract.Safe.bind (Q := fun result s => (∀ a, result = .ok a → a.projectId = out.uuid 0) ∧
      ∀ e, result = .error e → Idle t s) ?_ fun result => ?_
    · refine Contract.Safe.handle (E := fun _ => Idle t)
        (Contract.Safe.bind (ensureProjectForSource_safe t same unnamed unused) fun a => ?_) fun e => ?_
      · exact Contract.Safe.ret fun _ _ _ named => ⟨fun b same => Except.ok.inj same ▸ named, fun _ same => nomatch same⟩
      · exact Contract.Safe.ret fun _ _ _ idle => ⟨fun _ same => (nomatch same), fun _ _ => idle⟩
    · refine Contract.Safe.answering (fun _ => Contract.Stable.const) ?_
      rintro s i r s' - inv ⟨ok, error⟩ - exec -
      cases exec
      refine ⟨inv.answer ok fun e same => (error e same).1, ?_, (), rfl, trivial⟩
      have others : ∀ u, some t ≠ some u → (∀ r, (u, r) ∉ s.answers) → ∀ r, (u, r) ∉ (t, result) :: s.answers := by
        intro u other running r mem
        rcases List.mem_cons.mp mem with here | old
        · exact other (congrArg some (congrArg Prod.fst here).symm)
        · exact running r old
      exact { Leaves.refl (some t) s with
        idle := fun u other idle => ⟨idle.1, others u other idle.2⟩, running := others }
  environment _ _ _ _ _ change := nomatch change

/-- Where the source is unknown and the uuids are new. -/
theorem Settled.initial (unknown : Unknown out key store) : Settled out key store { store := store } where
  sources x mem type id := absurd ⟨type, id⟩ (unknown.source x mem)
  bindings b mem binds := absurd binds (unknown.bindings b mem)
  bound _ := unknown.bindings
  untouched _ := ⟨rfl, rfl⟩
  projects := ⟨[], (List.append_nil _).symm, rfl⟩
  single := Nat.zero_le 1
  answers _ _ mem := nomatch mem
  raised _ _ mem := nomatch mem

/-- **One source, one project.** It holds in every state of an orderly run. -/
theorem one_project (unknown : Unknown out key store) (unused : Unused out store) {d : Config (projectDesk out key)}
    (run : Run (orderly out key) (startProjects out key store) d) : OneProject store d.state := by
  have start : (deskContract out key store).Sound (startProjects out key store) :=
    Contract.Sound.initial (Settled.initial unknown) fun _ => ⟨List.not_mem_nil, fun _ => List.not_mem_nil⟩
  have settled := (Contract.sound (deskContract_holds unused) (fun _ _ => trivial) start run).inv
  refine ⟨fun t a u b memA memB => ?_, ?_, settled.raised⟩
  · exact (settled.answers t a memA).trans (settled.answers u b memB).symm
  · obtain ⟨made, projects, count⟩ := settled.projects
    exact ⟨made, projects, count ▸ settled.single⟩

/-! ## Two imports at once -/

/-- Uuids of growing length, and identities as plain texts. -/
def plainOutside : ProjectOutside where
  uuid n := String.ofList (List.replicate n 'u')
  identity type id := "source-" ++ type ++ ":" ++ id
  distinct n m same := by
    have lists := String.ofList_injective same
    simpa using congrArg List.length lists
  identified type id := by simp [String.append_assoc]

/-- The source of an Apifox project, with no environment. -/
def apifoxSource : SourceKey := ⟨"apifox", "42", ""⟩

def apifoxImport : EnsureCall := { sourceType := "apifox", sourceId := "42", name := "Shop" }

def importing (t n : ℕ) : List (Label (projectDesk plainOutside apifoxSource)) := List.replicate n (.step t apifoxImport)

def beginImport (t : ℕ) : Label (projectDesk plainOutside apifoxSource) := .start t apifoxImport

/-- The second import looks the binding up before the first one has made it. -/
def bothLookUp : List (Label (projectDesk plainOutside apifoxSource)) :=
  beginImport 0 :: importing 0 4 ++ beginImport 1 :: importing 1 11 ++ importing 0 8

theorem empty_unknown : Unknown plainOutside apifoxSource {} := ⟨fun _ mem => (nomatch mem), fun _ mem => nomatch mem⟩

theorem empty_unused : Unused plainOutside {} := fun _ _ mem => nomatch mem

/-- Both imports make a project. -/
theorem one_project_fails : ¬∀ out key store, Unknown out key store → Unused out store →
    ∀ d : Config (projectDesk out key), Run (Guard.free (projectDesk out key)) (startProjects out key store) d →
      OneProject store d.state := by
  intro claim
  let P (d : Config (projectDesk plainOutside apifoxSource)) : Bool := d.state.store.projects.length == 2
  have follows : ((startProjects plainOutside apifoxSource {}).follow (Guard.free _) bothLookUp).any P = true := by
    decide +kernel
  obtain ⟨d, found, two⟩ := Option.any_eq_true _ _ |>.mp follows
  obtain ⟨made, projects, single⟩ :=
    (claim plainOutside apifoxSource {} empty_unknown empty_unused d (.of_follow found)).created
  have count : made.length = 2 := by
    simpa [projects] using beq_iff_eq.mp two
  omega

/-- One import after the other. -/
theorem one_project_twice : ∃ d : Config (projectDesk plainOutside apifoxSource),
    d.state.answers.length = 2 ∧ OneProject {} d.state := by
  let P (d : Config (projectDesk plainOutside apifoxSource)) : Bool := d.state.answers.length == 2
  obtain ⟨d, run, both⟩ := Run.exists_of_follow (P := P)
    (show ((startProjects plainOutside apifoxSource {}).follow (orderly _ _)
      (beginImport 0 :: importing 0 12 ++ beginImport 1 :: importing 1 4)).any P = true by
      decide +kernel)
  exact ⟨d, beq_iff_eq.mp both, one_project empty_unknown empty_unused run⟩

end ApiManger.Projects
