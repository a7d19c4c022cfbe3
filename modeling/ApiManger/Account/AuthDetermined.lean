import ApiManger.Account.RequestKwargs

/-!
# Whose authentication a request carries

In account mode the arguments of a request should carry the credentials of its
context and nothing of the snapshot's own. A `dict` tells `X-Tenant` and `x-tenant`
apart while HTTP does not, so a header of the context stands alone exactly when no
other name that is kept differs from it in case only.
-/

namespace ApiManger.Account
open Python Store Collection

/-- The headers that HTTP takes for the one of the name. -/
def caseVariants (d : Mapping Json) (name : String) : List (String × Json) :=
  d.items.filter fun e => lower e.1 == lower name

/-- The snapshots that differ in authentication headers and cookies only. -/
def DiffersInAuth (s t : ReplaySnapshot) : Prop :=
  t = { s with headers := t.headers, cookies := t.cookies } ∧ (stripAuth s.headers).Same (stripAuth t.headers)

/-- The outcomes of two calls agree: their arguments are equal, or they raise the same. -/
def SameOutcome : Except PyError RequestKwargs → Except PyError RequestKwargs → Prop
  | .ok a, .ok b => a.headers.Same b.headers ∧ a = { b with headers := a.headers }
  | .error e, .error f => e = f
  | _, _ => False

/-! ## The parts of the arguments -/

theorem mem_asJson {d : Mapping String} {e : String × Json} :
    e ∈ (asJson d).items ↔ ∃ value, (e.1, value) ∈ d.items ∧ Json.str value = e.2 := Mapping.mem_mapValues

theorem mem_stripAuth {headers : Mapping Json} {e : String × Json} :
    e ∈ (stripAuth headers).items ↔ e ∈ headers.items ∧ isAuthHeader e.1 = false := by
  rw [stripAuth, Mapping.mem_filterKeys, Bool.not_eq_true']

variable {s : ReplaySnapshot} {context : Option AccountContext} {now : Timestamp} {env : AuthEnvironment}
  {authMode : String}

theorem validatedAccountContext_account
    {valid : Option AccountContext} (h : validatedAccountContext s "account" context now = .ok valid) :
    ∃ c, context = some c ∧ valid = some c := by
  unfold validatedAccountContext at h
  rw [if_neg (not_not.mpr rfl)] at h
  cases context with
  | none => cases h
  | some c =>
    obtain ⟨d, checked, rfl⟩ := map_eq_ok.mp h
    obtain ⟨rfl, _⟩ := AccountContext.validate_ok checked
    exact ⟨_, rfl, rfl⟩

/-- The headers of a snapshot under those of a context. -/
def underContext (s : ReplaySnapshot) (c : AccountContext) : Mapping Json :=
  (stripAuth s.headers).update (asJson c.headers)

/-- The call in account mode, once the context was found valid. -/
theorem requestKwargs_valid {options : Dict} {c : AccountContext}
    (account : effectiveMode authMode s = "account")
    (valid : validatedAccountContext s "account" context now = .ok (some c)) :
    requestKwargs env s authMode options context now = (do
      let contentType ← contentTypeOf s (underContext s c)
      let options ← validatedRequestOptions options
      return {
        headers := underContext s c, options := options, verify := tlsVerify (some c)
        cookies := if c.cookies.items.isEmpty then none else some (asJson c.cookies)
        payload := (normalizeBody s.body).map (payloadOf contentType) }) := by
  have cookies : cookiesOf "account" s (some c) =
      if c.cookies.items.isEmpty then none else some (asJson c.cookies) := by
    cases empty : c.cookies.items.isEmpty <;> simp [cookiesOf, empty]
  unfold requestKwargs
  simp only [account, valid, ← cookies]
  rfl

/-- What a request in account mode is made of. -/
theorem requestKwargs_account {options : Dict} {kwargs : RequestKwargs}
    (account : effectiveMode authMode s = "account")
    (h : requestKwargs env s authMode options context now = .ok kwargs) :
    ∃ c, context = some c ∧ kwargs.headers = underContext s c ∧
      kwargs.cookies = if c.cookies.items.isEmpty then none else some (asJson c.cookies) := by
  cases checked : validatedAccountContext s "account" context now with
  | error e =>
    unfold requestKwargs at h
    simp only [account, checked] at h
    cases h
  | ok valid =>
    obtain ⟨c, rfl, rfl⟩ := validatedAccountContext_account checked
    rw [requestKwargs_valid account checked] at h
    obtain ⟨_, _, h⟩ := bind_eq_ok.mp h
    obtain ⟨_, _, h⟩ := bind_eq_ok.mp h
    cases h
    exact ⟨c, rfl, rfl, rfl⟩

/-- What a request in anonymous mode is made of. -/
theorem requestKwargs_anonymous {options : Dict} {kwargs : RequestKwargs}
    (anonymous : effectiveMode authMode s = "anonymous")
    (h : requestKwargs env s authMode options context now = .ok kwargs) :
    kwargs.headers = stripAuth s.headers ∧ kwargs.cookies = none := by
  unfold requestKwargs at h
  simp only [anonymous, bind_eq_ok] at h
  obtain ⟨valid, checked, headers, merged, contentType, _, options, _, made⟩ := h
  cases checked
  cases made
  exact ⟨(Except.ok.inj merged).symm, rfl⟩

theorem contentTypeOf_same {d d' : Mapping Json} (same : d.Same d') :
    contentTypeOf s d = contentTypeOf s d' := by
  simp only [contentTypeOf, same "Content-Type", same "content-type"]

/-- The authentication of the snapshot does not reach the request. -/
theorem requestKwargs_independent (env : AuthEnvironment) {t : ReplaySnapshot}
    (options : Dict) (context : Option AccountContext) (now : Timestamp)
    (account : effectiveMode authMode s = "account") (differs : DiffersInAuth s t) :
    SameOutcome (requestKwargs env s authMode options context now)
      (requestKwargs env t authMode options context now) := by
  obtain ⟨others, stripped⟩ := differs
  have mode : effectiveMode authMode t = "account" := by
    rw [others]
    exact account
  have checked : validatedAccountContext t "account" context now =
      validatedAccountContext s "account" context now := by
    rw [others]
    rfl
  cases valid : validatedAccountContext s "account" context now with
  | error e =>
    unfold requestKwargs
    simp only [account, mode, checked, valid]
    exact rfl
  | ok valid' =>
    obtain ⟨c, rfl, rfl⟩ := validatedAccountContext_account valid
    have merged : (underContext s c).Same (underContext t c) := stripped.update
    have contentType : contentTypeOf t (underContext t c) = contentTypeOf s (underContext s c) := by
      rw [contentTypeOf_same merged, others]
      rfl
    have body : t.body = s.body := by rw [others]
    rw [requestKwargs_valid account valid, requestKwargs_valid mode (checked.trans valid), contentType, body]
    cases contentTypeOf s (underContext s c) with
    | error e => exact rfl
    | ok text =>
      cases validatedRequestOptions options with
      | error e => exact rfl
      | ok read => exact ⟨merged, rfl⟩

/-! ## The property -/

/-- The authentication of a request is the one of its context. -/
structure CarriesContext (env : AuthEnvironment) (s : ReplaySnapshot) (authMode : String) (options : Dict)
    (c : AccountContext) (now : Timestamp) (kwargs : RequestKwargs) : Prop where
  headers : ∀ e ∈ c.headers.items, caseVariants kwargs.headers e.1 = [(e.1, .str e.2)]
  recognised : ∀ e ∈ kwargs.headers.items, isAuthHeader e.1 = true → e ∈ (asJson c.headers).items
  cookies : (kwargs.cookies.getD .empty).Same (asJson c.cookies)
  independent : ∀ t, DiffersInAuth s t → SameOutcome (requestKwargs env s authMode options (some c) now)
    (requestKwargs env t authMode options (some c) now)

/-- The authentication of a request is decided by its mode. -/
def AuthDetermined (env : AuthEnvironment) (s : ReplaySnapshot) (authMode : String) (options : Dict)
    (context : Option AccountContext) (now : Timestamp) (kwargs : RequestKwargs) : Prop :=
  (effectiveMode authMode s = "account" →
    ∃ c, context = some c ∧ CarriesContext env s authMode options c now kwargs) ∧
  (effectiveMode authMode s = "anonymous" →
    (∀ e ∈ kwargs.headers.items, isAuthHeader e.1 = false) ∧ kwargs.cookies = none)

/-- No name of the context differs in case only from another one, nor from a header of the snapshot
that is kept. -/
def NamesApart (s : ReplaySnapshot) (authMode : String) (context : Option AccountContext) : Prop :=
  effectiveMode authMode s = "account" → ∀ c, context = some c → ∀ e ∈ c.headers.items,
    (∀ f ∈ c.headers.items, lower f.1 = lower e.1 → f.1 = e.1) ∧
    (∀ f ∈ (stripAuth s.headers).items, lower f.1 = lower e.1 → f.1 = e.1)

/-- The headers of the context stand alone exactly when no other name is a variant of theirs. -/
theorem caseVariants_alone {d : Mapping Json} {credentials : Mapping String} :
    (∀ e ∈ credentials.items, caseVariants (d.update (asJson credentials)) e.1 = [(e.1, .str e.2)]) ↔
      ∀ e ∈ credentials.items, (∀ f ∈ credentials.items, lower f.1 = lower e.1 → f.1 = e.1) ∧
        (∀ f ∈ d.items, lower f.1 = lower e.1 → f.1 = e.1) := by
  constructor
  · intro alone e mem
    have only : ∀ f ∈ (d.update (asJson credentials)).items, lower f.1 = lower e.1 → f.1 = e.1 := by
      intro f inside same
      have variant : f ∈ caseVariants (d.update (asJson credentials)) e.1 :=
        List.mem_filter.mpr ⟨inside, beq_iff_eq.mpr same⟩
      rw [alone e mem, List.mem_singleton] at variant
      rw [variant]
    constructor
    · intro f inside same
      have sent : (f.1, Json.str f.2) ∈ (d.update (asJson credentials)).items :=
        Mapping.mem_update.mpr (.inl (mem_asJson.mpr ⟨f.2, inside, rfl⟩))
      exact only _ sent same
    · intro f inside same
      by_cases replaced : ∃ g ∈ (asJson credentials).items, g.1 = f.1
      · obtain ⟨g, sent, name⟩ := replaced
        rw [← name] at same ⊢
        exact only g (Mapping.mem_update.mpr (.inl sent)) same
      · push Not at replaced
        exact only f (Mapping.mem_update.mpr (.inr ⟨inside, replaced⟩)) same
  · intro apart e mem
    obtain ⟨others, kept⟩ := apart e mem
    have sent : (e.1, Json.str e.2) ∈ (d.update (asJson credentials)).items :=
      Mapping.mem_update.mpr (.inl (mem_asJson.mpr ⟨e.2, mem, rfl⟩))
    refine Mapping.filter_eq_singleton sent (beq_self_eq_true _) fun f inside variant => ?_
    rcases Mapping.mem_update.mp inside with own | ⟨old, _⟩
    · obtain ⟨value, listed, _⟩ := mem_asJson.mp own
      exact others _ listed (beq_iff_eq.mp variant)
    · exact kept f old (beq_iff_eq.mp variant)

/-- **Authentication of a request.** The arguments of a request carry the authentication its mode asks
for exactly when the names of the context stand apart. -/
theorem auth_determined (env : AuthEnvironment) (s : ReplaySnapshot) (authMode : String) (options : Dict)
    (context : Option AccountContext) (now : Timestamp) (kwargs : RequestKwargs)
    (h : requestKwargs env s authMode options context now = .ok kwargs) :
    AuthDetermined env s authMode options context now kwargs ↔ NamesApart s authMode context := by
  constructor
  · intro ⟨determined, _⟩ account c given
    obtain ⟨d, same, carries⟩ := determined account
    obtain ⟨_, again, headers, _⟩ := requestKwargs_account account h
    cases given.symm.trans same
    cases given.symm.trans again
    have alone := carries.headers
    rw [headers] at alone
    exact caseVariants_alone.mp alone
  · intro apart
    constructor
    · intro account
      obtain ⟨c, rfl, headers, cookies⟩ := requestKwargs_account account h
      refine ⟨c, rfl, ?_, ?_, ?_, ?_⟩
      · rw [headers]
        exact caseVariants_alone.mpr (apart account c rfl)
      · intro e mem auth
        rw [headers] at mem
        rcases Mapping.mem_update.mp mem with own | ⟨old, _⟩
        · exact own
        · rw [(mem_stripAuth.mp old).2] at auth
          cases auth
      · rw [cookies]
        split
        · next empty =>
          intro key
          have none_ : (asJson c.cookies).items = [] := by
            simp [asJson, Mapping.mapValues, List.isEmpty_iff.mp empty]
          rw [Option.getD_none, Mapping.get?_empty, Mapping.get?, none_]
          rfl
        · exact fun key => rfl
      · exact fun t differs => requestKwargs_independent env options (some c) now account differs
    · intro anonymous
      obtain ⟨headers, cookies⟩ := requestKwargs_anonymous anonymous h
      refine ⟨fun e mem => ?_, cookies⟩
      rw [headers] at mem
      exact (mem_stripAuth.mp mem).2

/-- A context of one header. -/
def tenantContext : AccountContext where
  projectId := "p"
  envId := "formal"
  accountId := "owner"
  providerId := "local"
  contextRef := ""
  headers := .ofItems [("X-Tenant", "owner")]
  cookies := .empty
  authKind := "header"
  expiresAt := none
  issuedAt := none
  allowedHosts := ["api.example.test"]
  metadata := []
  sendableHeaders := by
    unfold Sendable
    decide +kernel
  sendableCookies := by
    unfold Sendable
    decide +kernel
  credentials := .inl (by decide +kernel)

/-- A snapshot of the headers, recorded as another account. -/
def recordedWith (headers : List (String × Json)) : ReplaySnapshot where
  projectId := "p"
  envId := "formal"
  authMode := "account"
  domain := "api.example.test"
  url := "https://api.example.test/orders"
  headers := .ofItems headers
  cookies := .ofItems [("sid", .str "recorded")]

/-- A recorded authorization does not stand in the way of the context. -/
theorem auth_determined_replaced : ∃ kwargs,
    requestKwargs {} (recordedWith [("Authorization", .str "Bearer recorded")]) "" [] (some tenantContext) 0 =
      .ok kwargs ∧
    AuthDetermined {} (recordedWith [("Authorization", .str "Bearer recorded")]) "" [] (some tenantContext) 0
      kwargs := by
  have returned : (requestKwargs {} (recordedWith [("Authorization", .str "Bearer recorded")]) "" []
      (some tenantContext) 0).toOption.isSome = true := by decide +kernel
  obtain ⟨kwargs, made⟩ := Option.isSome_iff_exists.mp returned
  have made := toOption_eq_some.mp made
  refine ⟨kwargs, made, (auth_determined _ _ _ _ _ _ kwargs made).mpr ?_⟩
  intro _ c given
  cases given
  have apart : ∀ e ∈ tenantContext.headers.items,
      (∀ f ∈ tenantContext.headers.items, lower f.1 = lower e.1 → f.1 = e.1) ∧
      (∀ f ∈ (stripAuth (recordedWith [("Authorization", .str "Bearer recorded")]).headers).items,
        lower f.1 = lower e.1 → f.1 = e.1) := by decide +kernel
  exact apart

/-- Of two recorded variants of the tenant's header, one is replaced and the other is sent too. -/
theorem auth_not_determined : ¬ ∀ (env : AuthEnvironment) (s : ReplaySnapshot) (authMode : String)
    (options : Dict) (context : Option AccountContext) (now : Timestamp) (kwargs : RequestKwargs),
    requestKwargs env s authMode options context now = .ok kwargs →
      AuthDetermined env s authMode options context now kwargs := by
  intro determined
  let s := recordedWith [("X-Tenant", .str "guest"), ("x-tenant", .str "guest")]
  have returned : (requestKwargs {} s "" [] (some tenantContext) 0).toOption.map
      (fun kwargs => (caseVariants kwargs.headers "X-Tenant")) =
        some [("X-Tenant", .str "owner"), ("x-tenant", .str "guest")] := by decide +kernel
  obtain ⟨kwargs, made, sent⟩ := Option.map_eq_some_iff.mp returned
  obtain ⟨account, _⟩ := determined {} s "" [] (some tenantContext) 0 kwargs (toOption_eq_some.mp made)
  obtain ⟨c, same, carries⟩ := account (by decide +kernel)
  cases same
  have alone := carries.headers ("X-Tenant", "owner") (by decide +kernel)
  rw [sent] at alone
  exact absurd alone (by decide +kernel)

end ApiManger.Account
