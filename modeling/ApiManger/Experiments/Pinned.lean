import ApiManger.Experiments.Enqueue

/-!
# Pinned requests

Two plans of one digest have the same candidates, down to the documents their payloads are
digested by. Content types are not part of these, and neither is the sampled body a snapshot
takes where no body was composed: these decide whether the digest pins the requests.
-/

namespace ApiManger.Experiments
open Python

/-- The snapshots have the same request. -/
structure SameRequest (a b : SnapshotData) : Prop where
  method : a.method = b.method
  url : a.url = b.url
  query : a.query.Same b.query
  headers : (Json.obj a.headers).Same (.obj b.headers)
  cookies : (Json.obj a.cookies).Same (.obj b.cookies)
  body : a.body.Same b.body
  contentType : a.contentType.Same b.contentType

/-- Whatever is enqueued before, enqueueing either plan gives its candidates the same requests. -/
def Pinned (p q : Plan) : Prop :=
  ∀ start start' store store' : List Snapshot,
    (∀ snapshot ∈ start, snapshot.planKey ≠ p.planSha256) → (∀ snapshot ∈ start', snapshot.planKey ≠ p.planSha256) →
    Reached p q start store → Reached p q start' store' →
    ∀ r r' : Plan, (r = p ∨ r = q) → (r' = p ∨ r' = q) → ∀ result result' : List Snapshot × List Snapshot,
      enqueueApifoxExperiment r p.planSha256 store = .ok result →
      enqueueApifoxExperiment r' p.planSha256 store' = .ok result' →
      List.Forall₂ (fun snapshot snapshot' => SameRequest snapshot.data snapshot'.data) result.2 result'.2

/-- The payloads agree on what their digests leave out. -/
structure SameUnhashed (a b : Payload) : Prop where
  contentType : (orElse a.contentType (.str "application/json")).Same (orElse b.contentType (.str "application/json"))
  rawBodySample : isEmptyBody a.body → a.rawBodySample.Same b.rawBodySample

/-! ## Candidates of built plans -/

def Candidate.Composed (digest : Digest) (c : Candidate) : Prop :=
  c.payloadSha256 = digest.sha (c.payload.document c.payload.method)

section
variable {outside : PlanOutside} {shown : Shown} {args : PlanArguments} {plan : Plan}

theorem candidateOf_composed {allowedHosts : List String} {asset : Asset} {payload : Payload} {c : Candidate}
    (present : payload.method ≠ "") (capitals : upper payload.method = payload.method)
    (made : candidateOf outside allowedHosts asset payload = .ok c) : c.Composed outside.digest := by
  unfold candidateOf at made
  dsimp only at made
  obtain ⟨-, made⟩ := raised_or made
  obtain ⟨-, made⟩ := raised_or made
  obtain ⟨-, made⟩ := raised_or made
  obtain ⟨-, made⟩ := raised_or made
  obtain ⟨-, made⟩ := raised_or made
  rw [if_pos present, capitals] at made
  cases made
  rfl

theorem examine_composed {context : ComposeContext} {allowedHosts : List String} {asset : Asset} {c : Candidate}
    (made : examine outside shown context allowedHosts asset = .ok (.ok c)) : c.Composed outside.digest := by
  unfold examine at made
  split at made
  · cases made
  · cases found : shown.endpoint asset with
    | none => rw [found] at made; cases made
    | some endpoint =>
      rw [found] at made
      obtain ⟨payload, built, made⟩ := bind_eq_ok.mp made
      obtain ⟨present, capitals⟩ := buildRequestPayload_method built
      exact candidateOf_composed present capitals (Except.ok.inj made)

/-- A built plan is the plan of some results, and its candidates are digests of their payloads. -/
theorem buildApifoxExperimentPlan_built (built : buildApifoxExperimentPlan outside shown args = .ok plan) :
    (∃ config fields results, plan = planOf outside args config fields results) ∧
      ∀ c ∈ plan.candidates, c.Composed outside.digest := by
  unfold buildApifoxExperimentPlan at built
  dsimp only at built
  obtain ⟨-, built⟩ := guard_eq_ok.mp built
  obtain ⟨_, -, built⟩ := bind_eq_ok.mp built
  obtain ⟨environment, -, built⟩ := bind_eq_ok.mp built
  obtain ⟨⟨config, fields⟩, -, built⟩ := bind_eq_ok.mp built
  dsimp only at built
  obtain ⟨-, built⟩ := guard_eq_ok.mp built
  obtain ⟨-, built⟩ := guard_eq_ok.mp built
  obtain ⟨results, examined, built⟩ := bind_eq_ok.mp built
  obtain ⟨-, built⟩ := guard_eq_ok.mp built
  obtain ⟨-, built⟩ := guard_eq_ok.mp built
  cases built
  refine ⟨⟨config, fields, results, rfl⟩, ?_⟩
  intro c mem
  obtain ⟨result, among, ok⟩ := List.mem_filterMap.mp mem
  rw [toOption_eq_some] at ok
  subst ok
  obtain ⟨asset, -, made⟩ := forall₂_right (mapM_ok examined) _ among
  exact examine_composed made

/-! ## Plans of one digest -/

/-- The candidates have one path id and one document. -/
def SameCandidate (c d : Candidate) : Prop :=
  c.pathid = d.pathid ∧ (c.payload.document c.payload.method).Same (d.payload.document d.payload.method)

theorem Digest.same (digest : Digest) {a b : Json} (equal : (digest.sha a).Same (digest.sha b)) : a.Same b := by
  apply (digest.exact a b).mp
  rw [← digest.plain a, ← digest.plain b, equal]

/-- Candidates that stand alike in the watermark are the same. -/
theorem same_of_references {digest : Digest} {cs ds : List Candidate} (composed : ∀ c ∈ cs, c.Composed digest)
    (composed' : ∀ d ∈ ds, d.Composed digest)
    (references : List.Forall₂ (fun c d => c.reference.Same d.reference) cs ds) :
    List.Forall₂ SameCandidate cs ds := by
  induction references with
  | nil => exact .nil
  | @cons c d cs ds same _ ih =>
    have digests : c.payloadSha256.Same d.payloadSha256 := Json.Same.get same "payload_sha256"
    rw [composed c (.head _), composed' d (.head _)] at digests
    have pathids : c.pathid = d.pathid := Json.Same.int (Json.Same.get same "pathid")
    refine .cons ⟨pathids, digest.same digests⟩ (ih ?_ ?_)
    · exact fun c mem => composed c (.tail _ mem)
    · exact fun d mem => composed' d (.tail _ mem)

theorem same_candidates {shown' : Shown} {args' : PlanArguments} {plan' : Plan}
    (built : buildApifoxExperimentPlan outside shown args = .ok plan)
    (built' : buildApifoxExperimentPlan outside shown' args' = .ok plan')
    (equal : plan.planSha256 = plan'.planSha256) : List.Forall₂ SameCandidate plan.candidates plan'.candidates := by
  obtain ⟨⟨config, fields, results, rfl⟩, composed⟩ := buildApifoxExperimentPlan_built built
  obtain ⟨⟨config', fields', results', rfl⟩, composed'⟩ := buildApifoxExperimentPlan_built built'
  have plans := (outside.digest.exact _ _).mp equal
  have watermarks := outside.digest.same (Json.Same.get plans "input_watermark_sha256")
  have references := Json.Same.items (Json.Same.get watermarks "candidates")
  rw [List.forall₂_map_left_iff, List.forall₂_map_right_iff] at references
  exact same_of_references composed composed' references

end

section
variable {p q : Plan} {c d : Candidate}

/-- The first candidates of a path id are the same. -/
theorem same_first {cs ds : List Candidate} (same : List.Forall₂ SameCandidate cs ds) {pathid : Int}
    (first : cs.find? (·.pathid == pathid) = some c) (first' : ds.find? (·.pathid == pathid) = some d) :
    SameCandidate c d := by
  induction same with
  | nil => cases first
  | cons one _ ih =>
    rw [List.find?_cons] at first first'
    rw [← one.1] at first'
    split at first
    · next here =>
      rw [here] at first'
      cases first
      cases first'
      exact one
    · next later =>
      rw [later] at first'
      exact ih first first'

theorem SameRequest.refl (a : SnapshotData) : SameRequest a a := ⟨rfl, rfl, rfl, rfl, rfl, rfl, rfl⟩

theorem SameRequest.symm {a b : SnapshotData} (same : SameRequest a b) : SameRequest b a :=
  ⟨same.method.symm, same.url.symm, same.query.symm, same.headers.symm, same.cookies.symm, same.body.symm,
    same.contentType.symm⟩

/-- Documents that are the same are empty bodies alike. -/
theorem isEmptyBody_iff {a b : Json} (same : a.Same b) : isEmptyBody a ↔ isEmptyBody b := by
  have kept : ∀ v : Json, isEmptyBody v ↔ v.canonical = .null ∨ v.canonical = .obj [] := by
    intro v
    cases v with
    | null | bool | int | float | str => exact Iff.rfl
    | arr items => simp [isEmptyBody, Json.canonical]
    | obj fields => simp only [isEmptyBody, Json.canonical, Json.obj.injEq, Json.canonical_obj_eq_nil, reduceCtorEq]
  rw [kept, kept, same]

theorem Same.orElse {a b default : Json} (same : a.Same b) : (orElse a default).Same (orElse b default) := by
  unfold Experiments.orElse
  rw [same.truthy]
  split
  · exact same
  · exact Json.Same.refl default

/-- Where the documents agree, the requests do so just where the rest of the payloads does. -/
theorem sameRequest_iff (same : SameCandidate c d) :
    SameRequest (snapshotOf p c).data (snapshotOf q d).data ↔ SameUnhashed c.payload d.payload := by
  have document := same.2
  have bodies : c.payload.body.Same d.payload.body := Json.Same.get document "body"
  have empty := isEmptyBody_iff bodies
  constructor
  · intro request
    refine ⟨request.contentType, ?_⟩
    intro here
    have body := request.body
    dsimp only [snapshotOf, payloadToSnapshotData] at body
    rwa [if_pos here, if_pos (empty.mp here)] at body
  · intro rest
    have methods : c.payload.method = d.payload.method := Json.Same.str (Json.Same.get document "method")
    have urls : c.payload.shownUrl = d.payload.shownUrl := Json.Same.str (Json.Same.get document "url")
    have url : ∀ payload : Payload, (payloadToSnapshotData payload).url = payload.shownUrl := by
      intro payload
      dsimp only [payloadToSnapshotData, Payload.shownUrl]
      by_cases none_ : payload.renderedUrl = ""
      · rw [if_pos (beq_iff_eq.mpr none_), if_neg (not_not_intro none_)]
      · rw [if_neg (fun empty => none_ (beq_iff_eq.mp empty)), if_pos none_]
    refine ⟨?_, ?_, Same.orElse (Json.Same.get document "query"), Json.Same.get document "headers",
      Json.Same.get document "cookies", ?_, rest.contentType⟩
    · change (payloadToSnapshotData c.payload).method = (payloadToSnapshotData d.payload).method
      dsimp only [payloadToSnapshotData]
      rw [methods]
    · change (payloadToSnapshotData c.payload).url = (payloadToSnapshotData d.payload).url
      rw [url, url, urls]
    · dsimp only [snapshotOf, payloadToSnapshotData]
      by_cases here : isEmptyBody c.payload.body
      · rw [if_pos here, if_pos (empty.mp here)]
        exact rest.rawBodySample here
      · rw [if_neg here, if_neg (fun there => here (empty.mpr there))]
        exact bodies

/-- Lists that are related through the elements of two others. -/
theorem forall₂_chain {α β γ δ : Type} {A : α → β → Prop} {S : β → γ → Prop} {B : δ → γ → Prop} {as : List α}
    {bs : List β} {cs : List γ} {ds : List δ} (left : List.Forall₂ A as bs) (middle : List.Forall₂ S bs cs)
    (right : List.Forall₂ B ds cs) : List.Forall₂ (fun a d => ∃ b c, A a b ∧ S b c ∧ B d c) as ds := by
  induction left generalizing cs ds with
  | nil =>
    cases middle
    cases right
    exact .nil
  | cons one _ ih =>
    obtain _ | ⟨two, middle⟩ := middle
    obtain _ | ⟨three, right⟩ := right
    exact .cons ⟨_, _, one, two, three⟩ (ih middle right)

/-- The snapshots enqueueing either plan ends with are those of first candidates. -/
theorem enqueued_first {r : Plan} {start store : List Snapshot} {result : List Snapshot × List Snapshot}
    (equal : q.planSha256 = p.planSha256) (free : ∀ snapshot ∈ start, snapshot.planKey ≠ p.planSha256)
    (reached : Reached p q start store) (either : r = p ∨ r = q)
    (enqueued : enqueueApifoxExperiment r p.planSha256 store = .ok result) :
    List.Forall₂ (fun c snapshot => OfFirst p q c.pathid snapshot) r.candidates result.2 := by
  obtain ⟨-, enqueued⟩ := raised_or enqueued
  cases enqueued
  have whole : r.candidates = [] ++ r.candidates ++ [] := (List.append_nil _).symm
  exact (ensureSnapshots_held either equal (reached.held equal free) whole fun _ mem => nomatch mem).2

/-- The first candidates of the path ids agree on what their digests leave out. -/
def FirstAlike (p q : Plan) : Prop :=
  ∀ pathid c d, p.first pathid = some c → q.first pathid = some d → SameUnhashed c.payload d.payload

theorem firstAlike_of_pinned (equal : q.planSha256 = p.planSha256)
    (same : List.Forall₂ SameCandidate p.candidates q.candidates) (pinned : Pinned p q) : FirstAlike p q := by
  intro pathid c d first first'
  have free : ∀ snapshot ∈ ([] : List Snapshot), snapshot.planKey ≠ p.planSha256 := fun _ mem => nomatch mem
  have enqueued : enqueueApifoxExperiment p p.planSha256 [] = .ok (ensureSnapshots p [] p.candidates) :=
    if_neg (not_not_intro rfl)
  have enqueued' : enqueueApifoxExperiment q p.planSha256 [] = .ok (ensureSnapshots q [] q.candidates) :=
    if_neg (not_not_intro equal.symm)
  have requests := pinned [] [] [] [] free free .start .start p q (.inl rfl) (.inr rfl) _ _ enqueued enqueued'
  have ofP : List.Forall₂ (fun c snapshot => OfFirst p p c.pathid snapshot) p.candidates _ :=
    enqueued_first rfl free .start (.inl rfl) enqueued
  have free' : ∀ snapshot ∈ ([] : List Snapshot), snapshot.planKey ≠ q.planSha256 := fun _ mem => nomatch mem
  have ofQ : List.Forall₂ (fun d snapshot => OfFirst q q d.pathid snapshot) q.candidates _ :=
    enqueued_first rfl free' .start (.inl rfl) (equal ▸ enqueued')
  have chained := forall₂_chain ofP requests ofQ
  have aligned : List.Forall₂ (fun d c => SameCandidate c d ∧ ∃ snapshot snapshot', OfFirst p p c.pathid snapshot ∧
      SameRequest snapshot.data snapshot'.data ∧ OfFirst q q d.pathid snapshot') q.candidates p.candidates := by
    refine List.Forall₂.flip (List.forall₂_iff_zip.mpr ⟨same.length_eq, ?_⟩)
    intro c d mem
    exact ⟨(List.forall₂_iff_zip.mp same).2 mem, (List.forall₂_iff_zip.mp chained).2 mem⟩
  obtain ⟨d', -, there, snapshot, snapshot', held, request, held'⟩ :=
    forall₂_right aligned c (List.mem_of_find?_eq_some first)
  have here : c.pathid = pathid := by
    have key := List.find?_some (p := fun b : Candidate => b.pathid == pathid) first
    exact beq_iff_eq.mp key
  rw [here] at held
  rw [← there.1, here] at held'
  obtain ⟨r, either, c', unique, rfl⟩ := held
  obtain ⟨r', either', d'', unique', rfl⟩ := held'
  rw [or_self] at either either'
  subst either either'
  rw [first] at unique
  rw [first'] at unique'
  cases unique
  cases unique'
  exact (sameRequest_iff (same_first same first first')).mp request

theorem pinned_of_firstAlike (equal : q.planSha256 = p.planSha256)
    (same : List.Forall₂ SameCandidate p.candidates q.candidates) (alike : FirstAlike p q) : Pinned p q := by
  -- snapshots of one path id have one request, whichever plans they are of
  have agree : ∀ (pathid : Int) (snapshot snapshot' : Snapshot), OfFirst p q pathid snapshot →
      OfFirst p q pathid snapshot' → SameRequest snapshot.data snapshot'.data := by
    rintro pathid _ _ ⟨r, either, c, first, rfl⟩ ⟨r', either', d, first', rfl⟩
    rcases either with rfl | rfl <;> rcases either' with rfl | rfl
    · rw [first] at first'
      cases first'
      exact .refl _
    · exact (sameRequest_iff (same_first same first first')).mpr (alike pathid c d first first')
    · exact ((sameRequest_iff (same_first same first' first)).mpr (alike pathid d c first' first)).symm
    · rw [first] at first'
      cases first'
      exact .refl _
  intro start start' store store' free free' reached reached' r r' either either' result result' enqueued enqueued'
  have left := enqueued_first equal free reached either enqueued
  have right := enqueued_first equal free' reached' either' enqueued'
  have pathids : List.Forall₂ (fun c d => c.pathid = d.pathid) r.candidates r'.candidates := by
    have forward := same.imp fun c d one => one.1
    have itself : ∀ cs : List Candidate, List.Forall₂ (fun c d => c.pathid = d.pathid) cs cs := fun cs =>
      List.forall₂_same.mpr fun _ _ => rfl
    rcases either with rfl | rfl <;> rcases either' with rfl | rfl
    · exact itself _
    · exact forward
    · exact List.Forall₂.flip (forward.imp fun c d one => one.symm)
    · exact itself _
  refine (forall₂_chain left.flip pathids right.flip).imp ?_
  rintro snapshot snapshot' ⟨c, d, held, one, held'⟩
  rw [← one] at held'
  exact agree c.pathid snapshot snapshot' held held'

/-- **Pinned requests.** Two plans of one digest pin their requests just where the first candidates
of each path id have one content type and, where no body was composed, one sampled body. -/
theorem pinned_iff {outside : PlanOutside} {shown shown' : Shown} {args args' : PlanArguments}
    (built : buildApifoxExperimentPlan outside shown args = .ok p)
    (built' : buildApifoxExperimentPlan outside shown' args' = .ok q) (equal : p.planSha256 = q.planSha256) :
    Pinned p q ↔ FirstAlike p q := by
  have same := same_candidates built built' equal
  exact ⟨firstAlike_of_pinned equal.symm same, pinned_of_firstAlike equal.symm same⟩

end

/-- Outside functions for a request without parameters; documents are their own digests, up to the
order of keys. -/
def orderOutside : PlanOutside where
  digest := ⟨Json.canonical, fun _ _ => Iff.rfl, Json.canonical_canonical⟩
  composer := ⟨fun _ _ => [], fun _ _ value => .ok value, Payload.url⟩
  headerValid := fun _ _ => true

def orderAsset : Asset := ⟨"a1", 7, "apifox", "shop", "", "", "POST", []⟩

variable (body : Json)

/-- An endpoint without parameters whose newest sample has a body. -/
def orderEndpoint : Endpoint where
  id := "a1"
  ptahId := 7
  projectId := "shop"
  envId := ""
  importRunId := ""
  sourceMeta := []
  method := "POST"
  url := "https://test.shop/orders"
  path := "/orders"
  domain := "test.shop"
  query := .obj []
  headers := []
  rawReq := []
  rawRes := []
  responseStatusCode := []
  action := ""
  rule := ""
  tags := ""
  des := ""
  entries := []
  sample := some ⟨"s1", "https://test.shop/orders", .obj [], [], body, .null, .null⟩

def orderFields : ContextFields := ⟨"buyer", "provider", "rev1", "rev1", "", ""⟩

def orderShown : Shown where
  environment := some ⟨"test", true, ["test.shop"]⟩
  revision := some "config"
  profile := some orderFields
  assets := [orderAsset]
  endpoint := fun _ => some (orderEndpoint body)

def orderArguments : PlanArguments := ⟨"shop", "qa", "rev1", "", [], ⟨50000, 20⟩⟩

def orderContext : ComposeContext := ⟨"shop", "qa", "buyer", "account", "apifox_test_experiment"⟩

def orderPayload : Payload :=
  let payload := payloadOf orderContext (orderEndpoint body) (startDraft (orderEndpoint body))
  { payload with renderedUrl := payload.url }

def orderCandidate : Candidate :=
  ⟨"a1", 7, "POST", "test.shop", true, ((orderPayload body).document "POST").canonical, "", orderPayload body⟩

/-- The plan built while the newest sample has this body. -/
def orderPlan : Plan := planOf orderOutside orderArguments "config" orderFields [.ok (orderCandidate body)]

theorem orderCandidate_made :
    candidateOf orderOutside ["test.shop"] orderAsset (orderPayload body) = .ok (orderCandidate body) := by
  have url : (orderPayload body).shownUrl = "https://test.shop/orders" := rfl
  have host : hostname "https://test.shop/orders" = some "test.shop" := by decide
  have scheme : String.ofList (urlsplit "https://test.shop/orders".toList).scheme = "https" := by decide
  have resolved : unresolvedPath (urlsplit "https://test.shop/orders".toList).path = false := by decide
  have sources : unresolvedRequiredPath (orderPayload body).parameterSources = false := rfl
  have method : (orderPayload body).method = "POST" := by
    change upper (if "POST" = "" then "GET" else "POST") = "POST"
    decide
  have headers : (orderPayload body).headers = [] := rfl
  unfold candidateOf
  dsimp only
  rw [url, host, scheme, resolved, sources, method, headers, if_neg (by decide), if_neg (by decide), if_neg (by decide),
    if_neg (by decide), if_neg (by decide), if_pos (by decide)]
  rfl

theorem orderPlan_built :
    buildApifoxExperimentPlan orderOutside (orderShown body) orderArguments = .ok (orderPlan body) := by
  have payload : buildRequestPayload orderOutside.composer orderContext (orderEndpoint body) = .ok (orderPayload body) := rfl
  have examined : examine orderOutside (orderShown body) orderContext ["test.shop"] orderAsset =
      .ok (.ok (orderCandidate body)) := by
    unfold examine
    rw [if_neg (by decide)]
    change (buildRequestPayload _ _ (orderEndpoint body) >>= _) = _
    rw [payload, ok_bind, orderCandidate_made]
  have results : [orderAsset].mapM (examine orderOutside (orderShown body) orderContext ["test.shop"]) =
      .ok [.ok (orderCandidate body)] := by
    rw [List.mapM_cons, examined]
    rfl
  have fields : profileExecutionContext (orderShown body) "rev1" = .ok ("config", orderFields) := rfl
  have environment : environmentFor (orderShown body) = .ok ⟨"test", true, ["test.shop"]⟩ := rfl
  have shop : stripped orderArguments.projectId = "shop" := by decide
  have qa : stripped orderArguments.envId = "qa" := by decide
  have revision : stripped orderArguments.profileRevisionId = "rev1" := by decide
  have run : stripped orderArguments.importRunId = "" := by decide
  have limits : orderArguments.limits.validate = .ok () := rfl
  have assets : assetQuery "shop" "" orderArguments.pathids (orderShown body).assets = [orderAsset] := rfl
  unfold buildApifoxExperimentPlan
  rw [shop, qa, revision, run]
  dsimp only
  refine guard_eq_ok.mpr ⟨by decide, ?_⟩
  refine bind_eq_ok.mpr ⟨(), limits, bind_eq_ok.mpr ⟨_, environment, bind_eq_ok.mpr ⟨_, fields, ?_⟩⟩⟩
  dsimp only
  refine guard_eq_ok.mpr ⟨by decide, guard_eq_ok.mpr ⟨?_, ?_⟩⟩
  · rw [assets]
    decide
  · rw [assets]
    refine bind_eq_ok.mpr ⟨_, results, guard_eq_ok.mpr ⟨?_, guard_eq_ok.mpr ⟨?_, rfl⟩⟩⟩
    · exact fun refused => refused.2 rfl
    · exact List.cons_ne_nil _ _

/-- The bodies of the newest sample when the one plan is built and when the other is. -/
def oneOrder : Json := .obj [("quantity", .int 1)]

def manyOrders : Json := .obj [("quantity", .int 900)]

theorem pinned_iff_orders : Pinned (orderPlan oneOrder) (orderPlan manyOrders) ↔
    FirstAlike (orderPlan oneOrder) (orderPlan manyOrders) :=
  pinned_iff (orderPlan_built oneOrder) (orderPlan_built manyOrders) rfl

/-- The body of the newest sample is sent, and no digest is over it. -/
theorem pinned_fails : ¬∀ (outside : PlanOutside) (shown shown' : Shown) (args args' : PlanArguments) (p q : Plan),
    buildApifoxExperimentPlan outside shown args = .ok p → buildApifoxExperimentPlan outside shown' args' = .ok q →
    p.planSha256 = q.planSha256 → Pinned p q := by
  intro all
  have pinned := all _ _ _ _ _ _ _ (orderPlan_built oneOrder) (orderPlan_built manyOrders) rfl
  have enqueued : ∀ body, enqueueApifoxExperiment (orderPlan body) (orderPlan oneOrder).planSha256 [] =
      .ok ([snapshotOf (orderPlan body) (orderCandidate body)], [snapshotOf (orderPlan body) (orderCandidate body)]) :=
    fun body => if_neg (not_not_intro rfl)
  have requests := pinned [] [] [] [] (fun _ mem => nomatch mem) (fun _ mem => nomatch mem) .start .start
    (orderPlan oneOrder) (orderPlan manyOrders) (.inl rfl) (.inr rfl) _ _ (enqueued oneOrder) (enqueued manyOrders)
  cases requests with
  | cons first _ =>
    have body : oneOrder.Same manyOrders := first.body
    exact absurd body (by decide)

end ApiManger.Experiments
