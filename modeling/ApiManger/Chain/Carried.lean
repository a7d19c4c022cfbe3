import ApiManger.Chain.Declared

/-!
# Where parameters are carried

The requests of a replay have their urls from the path and query values of the step;
headers, cookies and body are those of the asset's own request. So a parameter is
carried in its declared position exactly where it is placed: a path parameter whose
placeholder stands in the url of the endpoint, a query parameter, and neither with its
name given to another value later in the step.
-/

namespace ApiManger.Chain
open Python Account Execution

/-! ## Carrying -/

/-- The values of a name among the pairs of a query. -/
def textsOf (pairs : List (String × String)) (name : String) : List String :=
  (pairs.filter (·.1 == name)).map (·.2)

def bodyFields : Payload → Dict
  | .json (.obj fields) | .form fields | .dumped (.obj fields) | .data (.json (.obj fields)) => fields
  | _ => []

/-- The parts of a `Cookie` header. -/
def cookieParts (header : String) : List String :=
  (splitAll ';' header.toList).map fun part => stripped (String.ofList part)

/-- What the arguments of a request carry outside its url. -/
def ArgumentsCarry (kwargs : RequestKwargs) (p : ChainParameter) (value : Json) : Prop :=
  match p.position with
  | .header => ∃ e ∈ kwargs.headers.items, lower e.1 = lower p.name ∧ e.2.pyStr = value.pyStr
  | .cookie => (∃ cookies, kwargs.cookies = some cookies ∧ (cookies.get? p.name).map Json.pyStr = some value.pyStr) ∨
      ∃ e ∈ kwargs.headers.items, lower e.1 = "cookie" ∧ p.name ++ "=" ++ value.pyStr ∈ cookieParts e.2.pyStr
  | .body => ∃ payload, kwargs.payload = some payload ∧ Dict.get? (bodyFields payload) p.name = some value
  | .path | .query => False

/-- A request carries a parameter with a value where it is declared: in the path, the url is the template of the
endpoint with its placeholders filled, the one of this name with the text of the value. -/
def Carries (t : SentStep) (p : ChainParameter) (value : Json) : Prop :=
  match p.position with
  | .path => ∃ rendered, stepUrl t.step t.prepared.template t.prepared.pathValues = .ok rendered ∧
      t.prepared.url = mergeQuery rendered t.prepared.queryValues ∧
      p.name ∈ placeholderNames t.prepared.template ∧
      (t.prepared.pathValues.get? p.name).map Json.pyStr = some value.pyStr
  | .query => textsOf t.prepared.url.query p.name = queryTexts value
  | .header | .cookie | .body => ArgumentsCarry t.kwargs p value

/-- Every request carries the resolved parameters of its step. -/
def CarriesDeclared (sent : List SentStep) : Prop :=
  ∀ t ∈ sent, ∀ p ∈ t.step.parameters, ∀ value, resolvedValue t.sources p = .ok (some value) → Carries t p value

/-! ## Placing -/

/-- The request that the asset of a step makes carries a parameter. -/
def AssetCarries (call : ChainCall) (step : ChainStep) (p : ChainParameter) (value : Json) : Prop :=
  ∃ composed context url kwargs, call.outside.compose step = .ok (some composed) ∧
    accountContextOf call step = .ok context ∧
    requestKwargs call.outside.environment { composed.snapshot with url := url } call.context.authMode
      call.requestOptions context call.outside.now = .ok kwargs ∧ ArgumentsCarry kwargs p value

/-- The url of the endpoint has a query of its own that carries a parameter. -/
def UrlCarries (call : ChainCall) (step : ChainStep) (sources : Mapping Json) (p : ChainParameter) (value : Json) :
    Prop :=
  ∃ template values rendered, urlTemplate step ((call.outside.endpoint step.pathid).getD {}) = .ok template ∧
    (∀ name, values.get? name = declared .path step sources name) ∧ stepUrl step template values = .ok rendered ∧
    textsOf (parseQsl (queryOf rendered.toList)) p.name = queryTexts value

/-- A parameter is placed where it is declared. In the path, its placeholder stands in the url of the endpoint and the
last parameter of its name is a path one with the same text; in the query, the last parameter of its name is a query
one with the same texts, or the url already has them; elsewhere the request of the asset already carries it. -/
def Placed (call : ChainCall) (step : ChainStep) (sources : Mapping Json) (p : ChainParameter) (value : Json) : Prop :=
  match p.position with
  | .path => (∃ template, urlTemplate step ((call.outside.endpoint step.pathid).getD {}) = .ok template ∧
      p.name ∈ placeholderNames template) ∧
      (declared .path step sources p.name).map Json.pyStr = some value.pyStr
  | .query => match declared .query step sources p.name with
    | some last => queryTexts last = queryTexts value
    | none => UrlCarries call step sources p value
  | .header | .cookie | .body => AssetCarries call step p value

/-! ## Queries -/

theorem textsOf_append (xs ys : List (String × String)) (name : String) :
    textsOf (xs ++ ys) name = textsOf xs name ++ textsOf ys name := by
  rw [textsOf, List.filter_append, List.map_append]
  rfl

theorem textsOf_pairs (key name : String) (texts : List String) :
    textsOf (texts.map (key, ·)) name = if key = name then texts else [] := by
  induction texts with
  | nil => split <;> rfl
  | cons text rest ih =>
    rw [List.map_cons, ← List.singleton_append, textsOf_append, ih]
    by_cases same : key = name <;> simp [textsOf, same]

/-- The pairs that values are written as have, under a name, the texts of its values. -/
theorem textsOf_written (items : List (String × Json)) (name : String) :
    textsOf (items.flatMap fun e => (queryTexts e.2).map (e.1, ·)) name =
      (items.filter (·.1 == name)).flatMap fun e => queryTexts e.2 := by
  induction items with
  | nil => rfl
  | cons e rest ih =>
    rw [List.flatMap_cons, textsOf_append, ih, textsOf_pairs]
    by_cases here : e.1 = name
    · rw [if_pos here, List.filter_cons_of_pos (by simpa using here), List.flatMap_cons]
    · rw [if_neg here, List.filter_cons_of_neg (by simpa using here), List.nil_append]

/-- Under a name the merged query has the value that was given for it, or what the url had. -/
theorem textsOf_mergeQuery (rendered : String) (query : Mapping Json) (name : String) :
    textsOf (mergeQuery rendered query).query name = match query.get? name with
      | some value => queryTexts value
      | none => textsOf (parseQsl (queryOf rendered.toList)) name := by
  unfold mergeQuery
  dsimp only
  rw [textsOf_append, textsOf_written]
  cases found : query.get? name with
  | some value =>
    have mem := Mapping.mem_iff.mpr found
    have only : query.items.filter (·.1 == name) = [(name, value)] :=
      Mapping.filter_eq_singleton mem (beq_self_eq_true name) fun _ _ same => beq_iff_eq.mp same
    have replaced : textsOf ((parseQsl (queryOf rendered.toList)).filter fun pair => (query.get? pair.1).isNone) name =
        [] := by
      rw [textsOf, List.filter_filter, List.map_eq_nil_iff, List.filter_eq_nil_iff]
      intro pair _ both
      obtain ⟨same, absent⟩ := Bool.and_eq_true_iff.mp both
      rw [beq_iff_eq.mp same, found] at absent
      nomatch absent
    rw [only, replaced]
    exact List.append_nil _
  | none =>
    have absent : query.items.filter (·.1 == name) = [] := by
      refine List.filter_eq_nil_iff.mpr fun e mem same => ?_
      have inside : query.get? e.1 = some e.2 := Mapping.mem_iff.mp mem
      rw [beq_iff_eq.mp same, found] at inside
      nomatch inside
    rw [absent, List.flatMap_nil, List.append_nil, textsOf, textsOf, List.filter_filter]
    congr 1
    refine List.filter_congr fun pair _ => ?_
    by_cases same : pair.1 = name
    · rw [same, found]
      simp
    · simp [same]

/-- Rendering asks a dictionary for its values only. -/
theorem renderPathTemplate_same {values other : Mapping Json} (same : ∀ name, values.get? name = other.get? name)
    (template : String) : renderPathTemplate template values = renderPathTemplate template other := by
  have pieces_same : renderPiece values = renderPiece other := by
    funext piece
    cases piece with
    | literal c => rfl
    | placeholder name raw => rw [renderPiece, renderPiece, same]
  have blank_same : (fun name => isBlank (values.get? name)) = fun name => isBlank (other.get? name) := by
    funext name
    rw [same]
  rw [renderPathTemplate, renderPathTemplate, pieces_same, blank_same]

/-! ## Arguments -/

/-- The arguments of a request depend on its url only in whether they are raised. -/
theorem requestKwargs_url {env : AuthEnvironment} {s : ReplaySnapshot} {url other authMode : String} {options : Dict}
    {context : Option AccountContext} {now : Store.Timestamp} {here there : RequestKwargs}
    (ok : requestKwargs env { s with url := url } authMode options context now = .ok here)
    (ok' : requestKwargs env { s with url := other } authMode options context now = .ok there) : here = there := by
  have context_same {u v : String} {c c' : Option AccountContext} (mode : String)
      (valid : validatedAccountContext { s with url := u } mode context now = .ok c)
      (valid' : validatedAccountContext { s with url := v } mode context now = .ok c') : c = c' := by
    unfold validatedAccountContext at valid valid'
    by_cases account : mode = "account"
    · rw [if_neg (not_not.mpr account)] at valid valid'
      cases context with
      | none => nomatch valid
      | some given =>
        obtain ⟨d, passes, rfl⟩ := map_eq_ok.mp valid
        obtain ⟨d', passes', rfl⟩ := map_eq_ok.mp valid'
        rw [(AccountContext.validate_ok passes).1, (AccountContext.validate_ok passes').1]
    · rw [if_pos account] at valid valid'
      rw [← Except.ok.inj valid, ← Except.ok.inj valid']
  unfold requestKwargs at ok ok'
  obtain ⟨c, valid, ok⟩ := bind_eq_ok.mp ok
  obtain ⟨c', valid', ok'⟩ := bind_eq_ok.mp ok'
  cases context_same _ valid valid'
  have same : (Except.ok here : Except PyError RequestKwargs) = .ok there := ok.symm.trans ok'
  exact Except.ok.inj same

/-! ## Carried where placed -/

/-- A sent request carries a parameter just where it is placed. -/
theorem carries_iff {call : ChainCall} {t : SentStep} (prepared : PreparedFrom call t.step t.sources t.prepared)
    (arguments : t.prepared.kwargs call = .ok t.kwargs) (p : ChainParameter) (value : Json) :
    Carries t p value ↔ Placed call t.step t.sources p value := by
  have asset_carries : ArgumentsCarry t.kwargs p value ↔ AssetCarries call t.step p value := by
    constructor
    · intro carried
      exact ⟨t.prepared.composed, t.prepared.accountContext, _, t.kwargs, prepared.composed, prepared.context,
        arguments, carried⟩
    · rintro ⟨composed, context, url, kwargs, composes, resolves, ok, carried⟩
      rw [prepared.composed] at composes
      rw [prepared.context] at resolves
      cases Except.ok.inj composes
      cases Except.ok.inj resolves
      rw [requestKwargs_url arguments ok]
      exact carried
  obtain ⟨rendered, renders, url_eq⟩ := prepared.url
  unfold Carries Placed
  cases p.position with
  | path =>
    dsimp only
    constructor
    · rintro ⟨-, -, -, stands, text⟩
      rw [prepared.path] at text
      exact ⟨⟨t.prepared.template, prepared.template, stands⟩, text⟩
    · rintro ⟨⟨template, templates, stands⟩, text⟩
      rw [prepared.template] at templates
      cases Except.ok.inj templates
      rw [← prepared.path] at text
      exact ⟨rendered, renders, url_eq, stands, text⟩
  | query =>
    dsimp only
    rw [url_eq, textsOf_mergeQuery, prepared.query]
    cases declared .query t.step t.sources p.name with
    | some last => exact Iff.rfl
    | none =>
      constructor
      · intro carried
        exact ⟨t.prepared.template, t.prepared.pathValues, rendered, prepared.template, prepared.path, renders, carried⟩
      · rintro ⟨template, values, other, templates, same, renders_other, carried⟩
        rw [prepared.template] at templates
        cases Except.ok.inj templates
        have values_same (name : String) : values.get? name = t.prepared.pathValues.get? name := by
          rw [same, prepared.path]
        have rendered_same : other = rendered := by
          unfold stepUrl at renders renders_other
          rw [renderPathTemplate_same values_same] at renders_other
          exact Except.ok.inj (renders_other.symm.trans renders)
        rw [← rendered_same]
        exact carried
  | header => exact asset_carries
  | cookie => exact asset_carries
  | body => exact asset_carries

/-- **Sending what is declared.** A replay sends each step after the steps it depends on succeeded, and with every
resolved parameter where it is declared, just where these parameters are placed. -/
theorem sends_declared_iff (sha256 : ChainDefinition → String) (call : ChainCall) (store : ChainStore) :
    SentInOrder (replayChainLive sha256 call store).2.sent ∧ CarriesDeclared (replayChainLive sha256 call store).2.sent ↔
      ∀ t ∈ (replayChainLive sha256 call store).2.sent, ∀ p ∈ t.step.parameters, ∀ value,
        resolvedValue t.sources p = .ok (some value) → Placed call t.step t.sources p value := by
  have well := replayChainLive_well sha256 call store
  constructor
  · rintro ⟨-, carried⟩ t mem p listed value resolved
    obtain ⟨prepared, arguments⟩ := well.prepared t mem
    exact (carries_iff prepared arguments p value).mp (carried t mem p listed value resolved)
  · intro placed
    refine ⟨well.inOrder, fun t mem p listed value resolved => ?_⟩
    obtain ⟨prepared, arguments⟩ := well.prepared t mem
    exact (carries_iff prepared arguments p value).mpr (placed t mem p listed value resolved)

/-- A call whose step declares a required header. -/
def regionCall : ChainCall where
  definition := {
    name := "region"
    steps := [{
      stepId := "s_list", responseRef := "r_list", pathid := 7, method := "GET", pathTemplate := "/list"
      parameters := [⟨"X-Region", .header, "string", true, .constant (.str "eu"), ""⟩] }] }
  context := { projectId := "p1", authMode := "anonymous" }
  allowLiveRequests := true
  outside := {
    endpoint := fun _ => some { method := "GET", path := "/list", url := "https://api.test/list" }
    compose := fun _ => .ok (some ⟨"GET", { url := "https://api.test/list" }⟩)
    reply := fun _ => ⟨true, .arr []⟩ }

/-- The header is not sent. -/
theorem region_not_sent : ¬ CarriesDeclared (replayChainLive ChainDefinition.name regionCall {}).2.sent := by
  have sent : (replayChainLive ChainDefinition.name regionCall {}).2.sent.any (fun t =>
      t.kwargs.headers.items.isEmpty && t.step.parameters.any fun p =>
        p == ⟨"X-Region", .header, "string", true, .constant (.str "eu"), ""⟩) = true := by decide +kernel
  intro carried
  obtain ⟨t, mem, facts⟩ := List.any_eq_true.mp sent
  obtain ⟨bare, listed⟩ := Bool.and_eq_true_iff.mp facts
  obtain ⟨p, inside, same⟩ := List.any_eq_true.mp listed
  rw [beq_iff_eq.mp same] at inside
  obtain ⟨e, header, -⟩ : ∃ e ∈ t.kwargs.headers.items, _ := carried t mem _ inside (.str "eu") rfl
  rw [List.isEmpty_iff.mp bare] at header
  exact absurd header List.not_mem_nil

end ApiManger.Chain
