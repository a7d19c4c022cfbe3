import ApiManger.Experiments.RequestUrl
import ApiManger.Imperative.Routine
import ApiManger.Python.Documents
import ApiManger.Screening.Sqli

/-!
# Snapshots of a screening plan

`persist_sqli_screen_snapshots` of `apiAnalysis/tool/sqli_screen.py`. A snapshot is stored once
under its template key, and what is stored under a key is returned for every later item that has
it. The snapshots stay as they are; they belong to the items they are returned for as far as the
keys tell these apart.
-/

namespace ApiManger.Screening
open Python Account Collection Imperative

/-! ## Calls and snapshots -/

/-- The arguments of `persist_sqli_screen_snapshots`. -/
structure PersistCall where
  items : List Dict
  projectId : String
  envId : String
  authMode : String := "account"
  manifestSha256 : String := ""
  overrides : Mapping String := .empty

/-- A row of the spec of a snapshot. -/
structure SpecRow where
  name : String
  position : String
  base : String

/-- What is stored of an item. -/
structure PlannedSnapshot where
  projectId : String
  envId : String
  authMode : String
  method : String
  url : String
  path : String
  domain : String
  query : Dict
  body : Dict
  contentType : String
  spec : List SpecRow
  screeningClass : String
  manifestSha256 : String
  templateKey : String

/-- `request_snapshot`, as far as these calls write it. -/
structure StoredSnapshot extends PlannedSnapshot where
  pathid : Int

/-! ## Items -/

def methodOf (item : Dict) : String := upper (orText (Dict.get item "method").strOrEmpty "GET")

def hostOf (item : Dict) : String := rstripChar (Dict.get item "host").strOrEmpty '/'

def pathOf (item : Dict) : String := (Dict.get item "path").strOrEmpty

/-- The item waits for its host. -/
def isPending (item : Dict) : Bool := hostOf item == "__pending_route__" || hostOf item == ""

/-- The row of a parameter, of one with a name. -/
def specRow (parameter : Dict) : Option SpecRow :=
  let name := (Dict.get parameter "name").strOrEmpty
  if name == "" then none
  else
    let standing := if Dict.get parameter "type" = .str "array" then "1,2" else "1"
    let base := Dict.get parameter "base"
    some {
      name := name
      position := if Dict.truthy parameter "body" then "body" else "query"
      base := if base.truthy then base.pyStr else standing }

/-- `item.get("params") or []`. -/
def paramsOf (item : Dict) : Except PyError (List Dict) := documentsOf (Dict.get item "params")

/-- The values of the rows of a position; a later row of a name replaces its value. -/
def valuesAt (position : String) (spec : List SpecRow) : Dict :=
  (spec.filter (·.position == position)).foldl (fun values row => Dict.set values row.name (.str row.base)) []

def urlOf (item query : Dict) : String :=
  hostOf item ++ (pathOf item ++ if query.isEmpty then "" else "?" ++ String.ofList (Experiments.urlencode query))

/-- The class of an item: that of its method, where the call does not override it. -/
def PersistCall.screeningClass (call : PersistCall) (item : Dict) : String :=
  (call.overrides.get? (methodOf item ++ ":" ++ pathOf item)).getD (classOfMethod (methodOf item)).text

def PersistCall.templateKey (call : PersistCall) (item : Dict) (domain : String) : String :=
  "sqli:" ++ (call.projectId ++ ":" ++ methodOf item ++ ":" ++ pathOf item ++ ":" ++ domain ++ ":" ++
    call.screeningClass item ++ ":" ++ orText call.manifestSha256 "v1")

/-- What the loop computes of an item. -/
def PersistCall.planned (call : PersistCall) (refusesNetloc : String → Bool) (item : Dict) :
    Except PyError PlannedSnapshot := do
  let domain ← netlocOf refusesNetloc (hostOf item)
  let parameters ← paramsOf item
  let spec := parameters.filterMap specRow
  let query := valuesAt "query" spec
  let body := valuesAt "body" spec
  return {
    projectId := call.projectId
    envId := call.envId
    authMode := call.authMode
    method := methodOf item
    url := urlOf item query
    path := pathOf item
    domain := domain
    query := query
    body := body
    contentType := if body.isEmpty then "application/x-www-form-urlencoded" else "application/json"
    spec := spec
    screeningClass := call.screeningClass item
    manifestSha256 := call.manifestSha256
    templateKey := call.templateKey item domain }

/-! ## Persisting -/

/-- What the calls rely on: the further checks of `urlsplit`, and what the database refuses to store. -/
structure SnapshotOutside where
  refusesNetloc : String → Bool
  refuses : StoredSnapshot → Bool

abbrev SnapshotStore := List StoredSnapshot

/-- `request_snapshot.objects(template_key=...).first()`. -/
def stored? (s : SnapshotStore) (templateKey : String) : Option StoredSnapshot := s.find? (·.templateKey == templateKey)

inductive ItemResult where
  | pending
  | fetched (snapshot : StoredSnapshot)
  | created (snapshot : StoredSnapshot)

/-- `snapshots, created, skipped_pending`. -/
structure Persisted where
  snapshots : List StoredSnapshot := []
  created : ℕ := 0
  skipped : List Dict := []

def Persisted.add (done : Persisted) (item : Dict) : ItemResult → Persisted
  | .pending => { done with skipped := done.skipped ++ [item] }
  | .fetched snapshot => { done with snapshots := done.snapshots ++ [snapshot] }
  | .created snapshot => { done with snapshots := done.snapshots ++ [snapshot], created := done.created + 1 }

variable (outside : SnapshotOutside)

/-- `snapshot.save(force_insert=True)`. -/
def insertSnapshot (snapshot : StoredSnapshot) : Routine SnapshotStore PyError ItemResult :=
  if outside.refuses snapshot then Routine.raise (.other "ValidationError")
  else do
    Routine.modify (· ++ [snapshot])
    return .created snapshot

/-- One turn of the loop. -/
def persistItem (call : PersistCall) (fallbackIdx : ℕ) (item : Dict) : Routine SnapshotStore PyError ItemResult :=
  if isPending item then Routine.ret .pending
  else do
    let planned ← Routine.ofExcept (call.planned outside.refusesNetloc item)
    let s ← Routine.get
    match stored? s planned.templateKey with
    | some snapshot => return .fetched snapshot
    | none => do
      let idx := Dict.get item "idx"
      let pathid ← Routine.ofExcept (if idx = .null then .ok (fallbackIdx : Int) else idx.toInt)
      insertSnapshot outside { planned with pathid := pathid }

def persistItems (call : PersistCall) : ℕ → List Dict → Persisted → Routine SnapshotStore PyError Persisted
  | _, [], done => Routine.ret done
  | fallbackIdx, item :: rest, done => do
    let result ← persistItem outside call fallbackIdx item
    persistItems call (fallbackIdx + 1) rest (done.add item result)

def persistSqliScreenSnapshots (call : PersistCall) : Routine SnapshotStore PyError Persisted :=
  persistItems outside call 100000 call.items {}

/-- Calls one after the other, also after one that raised. -/
def persistAll : List PersistCall → SnapshotStore → List (Except PyError Persisted) × SnapshotStore
  | [], s => ([], s)
  | call :: rest, s =>
    let first := persistSqliScreenSnapshots outside call s
    let later := persistAll rest first.2
    (first.1 :: later.1, later.2)

/-! ## What the loop keeps -/

/-- The items that are stored or found. -/
def PersistCall.persistable (call : PersistCall) : List Dict := call.items.filter (!isPending ·)

variable {outside} {calls : List PersistCall} {call : PersistCall} {item : Dict} {s s' start : SnapshotStore}
  {x : StoredSnapshot}

/-- The snapshot was made of an item of one of the calls. -/
def MadeBy (outside : SnapshotOutside) (calls : List PersistCall) (x : StoredSnapshot) : Prop :=
  ∃ call ∈ calls, ∃ item ∈ call.persistable, call.planned outside.refusesNetloc item = .ok x.toPlannedSnapshot

/-- The store that the calls started with is there, and what was added is of their items. -/
structure Grown (outside : SnapshotOutside) (calls : List PersistCall) (start s : SnapshotStore) : Prop where
  kept : start.IsPrefix s
  made : ∀ x ∈ s, x ∈ start ∨ MadeBy outside calls x

/-- The snapshot is what the store holds first under the key of the item. -/
def HeldFor (outside : SnapshotOutside) (s : SnapshotStore) (call : PersistCall) (item : Dict) (x : StoredSnapshot) :
    Prop :=
  ∃ planned, call.planned outside.refusesNetloc item = .ok planned ∧ stored? s planned.templateKey = some x

theorem stored?_mono (longer : s.IsPrefix s') {key : String} (held : stored? s key = some x) : stored? s' key = some x := by
  obtain ⟨more, rfl⟩ := longer
  rw [stored?, List.find?_append, show s.find? (·.templateKey == key) = some x from held]
  rfl

theorem HeldFor.mono (held : HeldFor outside s call item x) (longer : s.IsPrefix s') : HeldFor outside s' call item x := by
  obtain ⟨planned, made, stored⟩ := held
  exact ⟨planned, made, stored?_mono longer stored⟩

/-- A snapshot that was made of an item is held for it, where there was none under its key. -/
theorem stored?_insert (absent : stored? s x.templateKey = none) : stored? (s ++ [x]) x.templateKey = some x := by
  rw [stored?, List.find?_append, show s.find? (·.templateKey == x.templateKey) = none from absent]
  simp

/-- What one turn gives back of an item. -/
def ItemResult.Held (outside : SnapshotOutside) (s : SnapshotStore) (call : PersistCall) (item : Dict) :
    ItemResult → Prop
  | .pending => isPending item = true
  | .fetched x | .created x => isPending item = false ∧ HeldFor outside s call item x

/-- A turn only adds a snapshot, of its item, and gives back what is held for the item. -/
theorem persistItem_meets (mem_call : call ∈ calls) (listed : item ∈ call.items) (fallbackIdx : ℕ) :
    Routine.Meets (Grown outside calls start) (persistItem outside call fallbackIdx item)
      (fun result s => Grown outside calls start s ∧ result.Held outside s call item)
      (fun _ => Grown outside calls start) := by
  unfold persistItem
  refine .ite (fun pending => .ret fun s grown => ⟨grown, pending⟩) fun ready => ?_
  rw [Bool.not_eq_true] at ready
  refine .bind (Q := fun planned s => call.planned outside.refusesNetloc item = .ok planned ∧ Grown outside calls start s)
    (.ofExcept (fun planned s made grown => ⟨made, grown⟩) fun e s _ grown => grown) fun planned => ?_
  refine .bind .get fun s₀ => ?_
  cases held : stored? s₀ planned.templateKey with
  | some x =>
    refine .ret fun s ⟨same, made, grown⟩ => ⟨grown, ready, planned, made, ?_⟩
    exact same ▸ held
  | none =>
    let Before (s : SnapshotStore) : Prop :=
      s₀ = s ∧ call.planned outside.refusesNetloc item = .ok planned ∧ Grown outside calls start s
    refine .bind (Q := fun _ => Before) (.ofExcept (fun pathid s _ before => before) fun e s _ before => before.2.2)
      fun pathid => ?_
    unfold insertSnapshot
    refine .ite (fun _ => .raise fun s before => before.2.2) fun _ => .bind (.modify fun s ⟨same, made, grown⟩ => ?_)
      fun _ => .ret fun s post => post
    refine ⟨⟨grown.kept.trans (List.prefix_append ..), fun x mem => ?_⟩, ready, planned, made, ?_⟩
    · rcases List.mem_append.mp mem with old | new
      · exact grown.made x old
      · rw [List.mem_singleton.mp new]
        exact .inr ⟨call, mem_call, item, List.mem_filter.mpr ⟨listed, by rw [ready]; rfl⟩, made⟩
    · exact stored?_insert (same ▸ held)

theorem Grown.refl (s : SnapshotStore) : Grown outside calls s s := ⟨List.prefix_refl s, fun _ mem => .inl mem⟩

theorem Grown.trans (first : Grown outside calls start s) (later : Grown outside calls s s') : Grown outside calls start s' :=
  ⟨first.kept.trans later.kept, fun x mem => (later.made x mem).elim (first.made x) .inr⟩

/-- The snapshots that a result adds are held for the item, where it is persistable. -/
theorem ItemResult.Held.add {result : ItemResult} {done : Persisted} {before : List Dict}
    (held : result.Held outside s call item)
    (earlier : List.Forall₂ (HeldFor outside s call) (before.filter (!isPending ·)) done.snapshots) :
    List.Forall₂ (HeldFor outside s call) ((before ++ [item]).filter (!isPending ·)) (done.add item result).snapshots := by
  rw [List.filter_append]
  cases result with
  | pending =>
    have pending : isPending item = true := held
    have none_ : [item].filter (!isPending ·) = [] := by simp [pending]
    rwa [none_, List.append_nil]
  | fetched x | created x =>
    have one : [item].filter (!isPending ·) = [item] := by simp [held.1]
    rw [one]
    exact List.rel_append earlier (.cons held.2 .nil)

/-- What the loop has done for the items before. -/
structure Progress (outside : SnapshotOutside) (calls : List PersistCall) (call : PersistCall) (start : SnapshotStore)
    (before : List Dict) (done : Persisted) (s : SnapshotStore) : Prop where
  grown : Grown outside calls start s
  held : List.Forall₂ (HeldFor outside s call) (before.filter (!isPending ·)) done.snapshots

theorem persistItems_meets (mem_call : call ∈ calls) (before items : List Dict) (all : call.items = before ++ items)
    (fallbackIdx : ℕ) (done : Persisted) :
    Routine.Meets (Progress outside calls call start before done) (persistItems outside call fallbackIdx items done)
      (Progress outside calls call start call.items) (fun _ => Grown outside calls start) := by
  induction items generalizing before fallbackIdx done with
  | nil =>
    rw [List.append_nil] at all
    exact .ret fun s progress => all ▸ progress
  | cons item rest ih =>
    have listed : item ∈ call.items := all ▸ List.mem_append_right _ (.head _)
    have next : call.items = (before ++ [item]) ++ rest := by rw [all, List.append_assoc]; rfl
    refine .bind (Q := fun result => Progress outside calls call start (before ++ [item]) (done.add item result))
      (fun s progress => ?_) fun result => ih _ next _ _
    have turn : Routine.Meets (Grown outside calls s) (persistItem outside call fallbackIdx item) _ _ :=
      persistItem_meets mem_call listed fallbackIdx
    have step := turn s (.refl s)
    refine ⟨fun result s' run => ?_, fun e s' run => progress.grown.trans (step.2 e s' run)⟩
    obtain ⟨grown, held⟩ := step.1 result s' run
    exact ⟨progress.grown.trans grown, held.add (progress.held.imp fun _ _ held => held.mono grown.kept)⟩

/-- What a call returned is held for its items. -/
def HeldResult (outside : SnapshotOutside) (s : SnapshotStore) (call : PersistCall) (result : Except PyError Persisted) :
    Prop :=
  ∀ done, result = .ok done → List.Forall₂ (HeldFor outside s call) call.persistable done.snapshots

theorem persistSqliScreenSnapshots_spec (mem_call : call ∈ calls) (s : SnapshotStore) :
    Grown outside calls s (persistSqliScreenSnapshots outside call s).2 ∧
      HeldResult outside (persistSqliScreenSnapshots outside call s).2 call (persistSqliScreenSnapshots outside call s).1 := by
  have loop : Routine.Meets (Progress outside calls call s [] {}) (persistSqliScreenSnapshots outside call) _ _ :=
    persistItems_meets mem_call [] call.items rfl 100000 {}
  have ends := loop s ⟨.refl s, .nil⟩
  rcases run : persistSqliScreenSnapshots outside call s with ⟨e | done, s'⟩
  · exact ⟨ends.2 e s' run, fun _ returned => nomatch returned⟩
  · have progress := ends.1 done s' run
    refine ⟨progress.grown, fun done' returned => ?_⟩
    cases returned
    exact progress.held

/-- What a run of calls returned is held for their items at its end. -/
theorem persistAll_spec (rest : List PersistCall) (some_ : ∀ call ∈ rest, call ∈ calls) (s : SnapshotStore) :
    Grown outside calls s (persistAll outside rest s).2 ∧
      List.Forall₂ (HeldResult outside (persistAll outside rest s).2) rest (persistAll outside rest s).1 := by
  induction rest generalizing s with
  | nil => exact ⟨.refl s, .nil⟩
  | cons call rest ih =>
    have first : Grown outside calls s (persistSqliScreenSnapshots outside call s).2 ∧ _ :=
      persistSqliScreenSnapshots_spec (some_ call (.head _)) s
    obtain ⟨grown, held⟩ := first
    obtain ⟨later, all⟩ := ih (fun c mem => some_ c (.tail _ mem)) (persistSqliScreenSnapshots outside call s).2
    refine ⟨grown.trans later, .cons (fun done returned => ?_) all⟩
    exact (held done returned).imp fun _ _ held => held.mono later.kept

/-! ## Snapshots of the items that asked for them -/

/-- The snapshot has the request of the item and belongs to the call. -/
structure Belongs (call : PersistCall) (item : Dict) (x : PlannedSnapshot) : Prop where
  projectId : x.projectId = call.projectId
  envId : x.envId = call.envId
  authMode : x.authMode = call.authMode
  method : x.method = methodOf item
  path : x.path = pathOf item
  url : x.url = urlOf item x.query
  spec : ∃ parameters, paramsOf item = .ok parameters ∧ x.spec = parameters.filterMap specRow
  query : x.query = valuesAt "query" x.spec
  body : x.body = valuesAt "body" x.spec
  screeningClass : x.screeningClass = call.screeningClass item

/-- Every snapshot that a run of calls returns belongs to the call and the item. -/
def AllBelong (outside : SnapshotOutside) (calls : List PersistCall) (s : SnapshotStore) : Prop :=
  List.Forall₂ (fun call result => ∀ done, result = .ok done →
    List.Forall₂ (fun item x => Belongs call item x.toPlannedSnapshot) call.persistable done.snapshots)
    calls (persistAll outside calls s).1

/-- An item of a call of a run, with its host part. -/
structure Asked (outside : SnapshotOutside) (calls : List PersistCall) (call : PersistCall) (item : Dict)
    (domain : String) : Prop where
  call_mem : call ∈ calls
  listed : item ∈ call.persistable
  host : netlocOf outside.refusesNetloc (hostOf item) = .ok domain

/-- The parts of a template key. -/
def PersistCall.keyParts (call : PersistCall) (item : Dict) (domain : String) : List String :=
  [call.projectId, methodOf item, pathOf item, domain, call.screeningClass item, orText call.manifestSha256 "v1"]

/-- The template keys of a run tell apart what goes into the snapshots: keys that are equal have the same parts, and
items of the same parts have the same environment, auth mode and host. -/
structure Separated (outside : SnapshotOutside) (calls : List PersistCall) : Prop where
  unambiguous : ∀ {call call' : PersistCall} {item item' : Dict} {domain domain' : String},
    Asked outside calls call item domain → Asked outside calls call' item' domain' →
    call.templateKey item domain = call'.templateKey item' domain' → call.keyParts item domain = call'.keyParts item' domain'
  complete : ∀ {call call' : PersistCall} {item item' : Dict} {domain domain' : String},
    Asked outside calls call item domain → Asked outside calls call' item' domain' →
    call.keyParts item domain = call'.keyParts item' domain' →
    call.envId = call'.envId ∧ call.authMode = call'.authMode ∧ hostOf item = hostOf item'

/-- A manifest determines the parameters of its items. -/
structure Determined (calls : List PersistCall) : Prop where
  named : ∀ call ∈ calls, call.manifestSha256 ≠ ""
  parameters : ∀ call ∈ calls, ∀ call' ∈ calls, ∀ item ∈ call.items, ∀ item' ∈ call'.items,
    call.manifestSha256 = call'.manifestSha256 → methodOf item = methodOf item' → hostOf item = hostOf item' →
    pathOf item = pathOf item' → Dict.get item "params" = Dict.get item' "params"

theorem planned_belongs {refusesNetloc : String → Bool} {planned : PlannedSnapshot}
    (made : call.planned refusesNetloc item = .ok planned) :
    Belongs call item planned ∧ ∃ domain, netlocOf refusesNetloc (hostOf item) = .ok domain ∧
      planned.templateKey = call.templateKey item domain := by
  obtain ⟨domain, host, made⟩ := bind_eq_ok.mp made
  obtain ⟨parameters, listed, made⟩ := bind_eq_ok.mp made
  cases Except.ok.inj made
  exact ⟨⟨rfl, rfl, rfl, rfl, rfl, rfl, ⟨parameters, listed, rfl⟩, rfl, rfl, rfl⟩, domain, host, rfl⟩

variable {call' : PersistCall} {domain : String}

theorem templateKey_congr {item' : Dict} {domain' : String}
    (same : call.keyParts item domain = call'.keyParts item' domain') :
    call.templateKey item domain = call'.templateKey item' domain' := by
  simp only [PersistCall.keyParts, List.cons.injEq, and_true] at same
  obtain ⟨project, method, path, host, class_, manifest⟩ := same
  rw [PersistCall.templateKey, PersistCall.templateKey, project, method, path, host, class_, manifest]

/-- A snapshot that belongs to an item belongs to another one that agrees with it. -/
theorem Belongs.transfer {item' : Dict} {x : PlannedSnapshot} {domain' : String}
    (belongs : Belongs call' item' x) (determined : Determined calls) (asked : Asked outside calls call item domain)
    (asked' : Asked outside calls call' item' domain')
    (parts : call.keyParts item domain = call'.keyParts item' domain') (env : call.envId = call'.envId)
    (auth : call.authMode = call'.authMode) (host : hostOf item = hostOf item') : Belongs call item x := by
  simp only [PersistCall.keyParts, List.cons.injEq, and_true] at parts
  obtain ⟨project, method, path, -, class_, manifest⟩ := parts
  rw [orText_named (determined.named _ asked.call_mem), orText_named (determined.named _ asked'.call_mem)] at manifest
  have parameters := determined.parameters _ asked.call_mem _ asked'.call_mem _ (List.mem_of_mem_filter asked.listed) _
    (List.mem_of_mem_filter asked'.listed) manifest method host path
  have spec : paramsOf item = paramsOf item' := by
    rw [paramsOf, paramsOf, parameters]
  exact {
    projectId := belongs.projectId.trans project.symm
    envId := belongs.envId.trans env.symm
    authMode := belongs.authMode.trans auth.symm
    method := belongs.method.trans method.symm
    path := belongs.path.trans path.symm
    url := by rw [belongs.url, urlOf, urlOf, host, path]
    spec := spec ▸ belongs.spec
    query := belongs.query
    body := belongs.body
    screeningClass := belongs.screeningClass.trans class_.symm }

theorem Belongs.agree {item' : Dict} {x : PlannedSnapshot} {domain' : String}
    (belongs : Belongs call item x) (belongs' : Belongs call' item' x) (asked : Asked outside calls call item domain)
    (asked' : Asked outside calls call' item' domain')
    (key : call.templateKey item domain = call'.templateKey item' domain') :
    call.keyParts item domain = call'.keyParts item' domain' ∧
      call.envId = call'.envId ∧ call.authMode = call'.authMode ∧ hostOf item = hostOf item' := by
  have project := belongs.projectId.symm.trans belongs'.projectId
  have method := belongs.method.symm.trans belongs'.method
  have path := belongs.path.symm.trans belongs'.path
  have class_ := belongs.screeningClass.symm.trans belongs'.screeningClass
  have url := belongs.url.symm.trans belongs'.url
  rw [urlOf, urlOf, path, String.append_left_inj] at url
  have domains : domain = domain' := Except.ok.inj (asked.host.symm.trans (url ▸ asked'.host))
  rw [PersistCall.templateKey, PersistCall.templateKey, project, method, path, class_, domains, String.append_right_inj,
    String.append_right_inj] at key
  rw [PersistCall.keyParts, PersistCall.keyParts, project, method, path, class_, domains, key]
  exact ⟨rfl, belongs.envId.symm.trans belongs'.envId, belongs.authMode.symm.trans belongs'.authMode, url⟩

theorem startsWith_append (start text : String) : startsWith (start ++ text) start = true := by
  rw [startsWith, String.toList_append, List.isPrefixOf_iff_prefix]
  exact List.prefix_append ..

/-- What is held for an item of a run is of an item of the same key. -/
theorem HeldFor.asked {domain : String} (held : HeldFor outside s call item x) (grown : Grown outside calls start s)
    (foreign : ∀ x ∈ start, startsWith x.templateKey "sqli:" = false) (asked : Asked outside calls call item domain) :
    ∃ call' item' domain', Asked outside calls call' item' domain' ∧ Belongs call' item' x.toPlannedSnapshot ∧
      call.templateKey item domain = call'.templateKey item' domain' := by
  obtain ⟨planned, made, stored⟩ := held
  obtain ⟨-, domain₁, host, key⟩ := planned_belongs made
  cases host.symm.trans asked.host
  have same : x.templateKey = planned.templateKey := by simpa using List.find?_some stored
  rcases grown.made x (List.mem_of_find?_eq_some stored) with old | ⟨call', mem, item', listed, made'⟩
  · have other := foreign x old
    rw [same, key, PersistCall.templateKey, startsWith_append] at other
    cases other
  · obtain ⟨belongs, domain', host', key'⟩ := planned_belongs made'
    exact ⟨call', item', domain', ⟨mem, listed, host'⟩, belongs, key.symm.trans (same.symm.trans key')⟩

/-- Calls one after the other end where the first ones and the later ones end. -/
theorem persistAll_append (before after : List PersistCall) (s : SnapshotStore) :
    (persistAll outside (before ++ after) s).2 = (persistAll outside after (persistAll outside before s).2).2 := by
  induction before generalizing s with
  | nil => rfl
  | cons call rest ih => exact ih _

theorem returned_item {results : List (Except PyError Persisted)} {R : PersistCall → Dict → StoredSnapshot → Prop}
    (related : List.Forall₂ (fun call result => ∀ done, result = .ok done →
      List.Forall₂ (R call) call.persistable done.snapshots) calls results)
    (returned : ∀ result ∈ results, ∃ done, result = .ok done) (asked : Asked outside calls call item domain) :
    ∃ x, R call item x := by
  obtain ⟨result, mem, all⟩ := forall₂_right (List.Forall₂.flip related) call asked.call_mem
  obtain ⟨done, same⟩ := returned result mem
  obtain ⟨x, -, holds⟩ := forall₂_right (List.Forall₂.flip (all done same)) item asked.listed
  exact ⟨x, holds⟩

/-- **Snapshots of the items that asked for them.** No call changes a stored snapshot. In every run whose template keys
tell the items apart, each snapshot that is returned belongs to its item and its call; and where no call of the run
raises, they do so only then. -/
theorem persistAll_belongs {start : SnapshotStore} (foreign : ∀ x ∈ start, startsWith x.templateKey "sqli:" = false)
    (determined : Determined calls) :
    (∀ before after, calls = before ++ after →
      (persistAll outside before start).2.IsPrefix (persistAll outside calls start).2) ∧
    (Separated outside calls → AllBelong outside calls start) ∧
    ((∀ result ∈ (persistAll outside calls start).1, ∃ done, result = .ok done) →
      AllBelong outside calls start → Separated outside calls) := by
  obtain ⟨grown, held⟩ : Grown outside calls start (persistAll outside calls start).2 ∧ _ :=
    persistAll_spec calls (fun _ mem => mem) start
  refine ⟨?_, fun separated => ?_, fun returned belong => ?_⟩
  · rintro before after rfl
    have later : Grown outside after _ _ ∧ _ := persistAll_spec after (fun _ mem => mem) (persistAll outside before start).2
    rw [persistAll_append]
    exact later.1.kept
  · refine ((List.forall₂_and_left ..).mpr ⟨fun call mem => mem, held⟩).imp fun call result ⟨mem, held⟩ done returned => ?_
    refine ((List.forall₂_and_left ..).mpr ⟨fun item listed => listed, held done returned⟩).imp
      fun item x ⟨listed, heldFor⟩ => ?_
    obtain ⟨planned, made, -⟩ := id heldFor
    obtain ⟨-, domain, host, -⟩ := planned_belongs made
    have asked : Asked outside calls call item domain := ⟨mem, listed, host⟩
    obtain ⟨call', item', domain', asked', belongs, key⟩ := heldFor.asked grown foreign asked
    have parts := separated.unambiguous asked asked' key
    obtain ⟨env, auth, host⟩ := separated.complete asked asked' parts
    exact belongs.transfer determined asked asked' parts env auth host
  · have both : List.Forall₂ (fun call result => ∀ done, result = .ok done → List.Forall₂ (fun item x =>
        HeldFor outside (persistAll outside calls start).2 call item x ∧ Belongs call item x.toPlannedSnapshot)
        call.persistable done.snapshots) calls (persistAll outside calls start).1 :=
      List.Forall₂.mp (fun call result held belong done returned =>
        List.Forall₂.mp (fun _ _ held belongs => ⟨held, belongs⟩) (held done returned) (belong done returned)) held belong
    -- one snapshot is held under a key
    have agree : ∀ {call call' : PersistCall} {item item' : Dict} {domain domain' : String},
        Asked outside calls call item domain → Asked outside calls call' item' domain' →
        call.templateKey item domain = call'.templateKey item' domain' →
        call.keyParts item domain = call'.keyParts item' domain' ∧
          call.envId = call'.envId ∧ call.authMode = call'.authMode ∧ hostOf item = hostOf item' := by
      intro call call' item item' domain domain' asked asked' key
      obtain ⟨x, ⟨planned, made, stored⟩, belongs⟩ := returned_item both returned asked
      obtain ⟨x', ⟨planned', made', stored'⟩, belongs'⟩ := returned_item both returned asked'
      obtain ⟨-, domain₁, host, first⟩ := planned_belongs made
      obtain ⟨-, domain₁', host', second⟩ := planned_belongs made'
      cases host.symm.trans asked.host
      cases host'.symm.trans asked'.host
      rw [first, key, ← second, stored'] at stored
      cases stored
      exact belongs.agree belongs' asked asked' key
    exact ⟨fun asked asked' key => (agree asked asked' key).1,
      fun asked asked' parts => (agree asked asked' (templateKey_congr parts)).2⟩

/-! ## The same item in two environments -/

def itemsRequest : Dict := [
  ("idx", .int 0), ("method", .str "GET"), ("path", .str "/items"), ("host", .str "https://api.example.test"),
  ("params", .arr [.obj [("name", .str "x"), ("type", .str "string"), ("base", .str "1")]])]

def itemsCall (envId : String) : PersistCall where
  items := [itemsRequest]
  projectId := "p1"
  envId := envId
  manifestSha256 := "manifestA"

/-- Nothing is refused. -/
def permissive : SnapshotOutside := ⟨fun _ => false, fun _ => false⟩

theorem itemsCall_determined {calls : List PersistCall} (each : ∀ call ∈ calls, ∃ env, call = itemsCall env) :
    Determined calls where
  named call mem := by
    obtain ⟨env, rfl⟩ := each call mem
    exact (by decide : "manifestA" ≠ "")
  parameters call mem call' mem' item listed item' listed' _ _ _ _ := by
    obtain ⟨env, rfl⟩ := each call mem
    obtain ⟨env', rfl⟩ := each call' mem'
    rw [List.mem_singleton.mp listed, List.mem_singleton.mp listed']

/-- The snapshot of the first environment is returned for the second one. -/
theorem persistAll_mixes : ¬∀ (outside : SnapshotOutside) (calls : List PersistCall) (start : SnapshotStore),
    (∀ x ∈ start, startsWith x.templateKey "sqli:" = false) → Determined calls → AllBelong outside calls start := by
  intro claim
  have belong := claim permissive [itemsCall "test", itemsCall "prod"] [] (fun _ mem => nomatch mem)
    (itemsCall_determined fun call mem => by
      rcases List.mem_cons.mp mem with rfl | mem
      · exact ⟨"test", rfl⟩
      · exact ⟨"prod", List.mem_singleton.mp mem⟩)
  obtain ⟨first, rest, -, later, all⟩ := List.forall₂_cons_left_iff.mp belong
  obtain ⟨second, rest, ofProd, -, rfl⟩ := List.forall₂_cons_left_iff.mp later
  have environments : ((persistAll permissive [itemsCall "test", itemsCall "prod"] []).1.map fun result =>
      result.toOption.map fun done => done.snapshots.map (·.envId)) = [some ["test"], some ["test"]] := by decide +kernel
  rw [all, List.map_cons, List.map_cons] at environments
  obtain ⟨done, returned, snapshots⟩ := Option.map_eq_some_iff.mp (List.cons.inj (List.cons.inj environments).2).1
  have listed : itemsRequest ∈ (itemsCall "prod").persistable := List.mem_filter.mpr ⟨.head _, by decide +kernel⟩
  obtain ⟨x, mem, belongs⟩ :=
    forall₂_right (List.Forall₂.flip (ofProd done (toOption_eq_some.mp returned))) itemsRequest listed
  have env : x.envId ∈ done.snapshots.map (·.envId) := List.mem_map_of_mem mem
  rw [snapshots, List.mem_singleton, belongs.envId] at env
  exact absurd env (by decide)

/-- A run in one environment gets its own snapshots. -/
theorem persistAll_same : AllBelong permissive [itemsCall "test", itemsCall "test"] [] := by
  have each : ∀ call ∈ [itemsCall "test", itemsCall "test"], call = itemsCall "test" := by simp
  have foreign : ∀ x ∈ ([] : SnapshotStore), startsWith x.templateKey "sqli:" = false := fun _ mem => nomatch mem
  refine (persistAll_belongs foreign (itemsCall_determined fun call mem => ⟨"test", each call mem⟩)).2.1 ?_
  have same : ∀ {call call' : PersistCall} {item item' : Dict} {domain domain' : String},
      Asked permissive [itemsCall "test", itemsCall "test"] call item domain →
      Asked permissive [itemsCall "test", itemsCall "test"] call' item' domain' →
      call = call' ∧ item = item' ∧ domain = domain' := by
    rintro call call' item item' domain domain' ⟨mem, listed, host⟩ ⟨mem', listed', host'⟩
    obtain rfl := each call mem
    obtain rfl := each call' mem'
    obtain rfl := List.mem_singleton.mp (List.mem_of_mem_filter listed)
    obtain rfl := List.mem_singleton.mp (List.mem_of_mem_filter listed')
    exact ⟨rfl, rfl, Except.ok.inj (host.symm.trans host')⟩
  constructor
  · intro call call' item item' domain domain' asked asked' _
    obtain ⟨rfl, rfl, rfl⟩ := same asked asked'
    rfl
  · intro call call' item item' domain domain' asked asked' _
    obtain ⟨rfl, rfl, rfl⟩ := same asked asked'
    exact ⟨rfl, rfl, rfl⟩

end ApiManger.Screening
