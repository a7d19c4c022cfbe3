import ApiManger.Account.Context

/-!
# Accounts from a local file

`JsonFileAccountContextProvider`: the records of a JSON document, the names a record
goes by, and the context made of the first record that goes by the names of a
reference. Which record that is depends on the order of the file.
-/

namespace ApiManger.Account
open Python Store Collection

/-! ## Records -/

/-- `a or b`. -/
def Json.or (a b : Json) : Json := if a.truthy then a else b

/-- The fields whose value a record goes by. -/
def candidateFields : List String := ["account_id", "username", "name", "alias", "id", "context_ref"]

variable (record : Dict)

/-- `str(record.get(key) or "").strip()`. -/
def recordText (key : String) : String := stripped (Dict.get record key).strOrEmpty

def recordCandidates (index : Nat) : List String :=
  ((candidateFields.map (recordText record)) ++ [toString index, "account[" ++ toString index ++ "]"]).filter
    (· != "")

/-- `record.setdefault(key, value)`. -/
def setDefault (key : String) (value : Json) : Dict :=
  if record.any (·.1 == key) then record else record ++ [(key, value)]

/-- One account of the map form. -/
def keyedRecord : String × Json → Except PyError Dict
  | (key, .obj record) => .ok (setDefault record "account_id" (.str key))
  | _ => .error contextInvalid

/-- One account of the list form. -/
def listedRecord : Json → Except PyError Dict
  | .obj record => .ok record
  | _ => .error contextInvalid

def recordsFromDocument (document : Dict) : Except PyError (List Dict) :=
  match Dict.get document "accounts" with
  | .null => .ok [document]
  | .obj accounts => accounts.mapM keyedRecord
  | .arr accounts => accounts.mapM listedRecord
  | _ => .error contextInvalid

/-! ## Credentials of a record -/

/-- A pair as `dict` reads it from a sequence; a key is taken by its text. -/
def asPair : Json → Except PyError (String × Json)
  | .arr [key, value] => .ok (key.pyStr, value)
  | .str s => match s.toList with
    | [key, value] => .ok (String.ofList [key], .str (String.ofList [value]))
    | _ => .error (.valueError "dictionary update sequence element has the wrong length")
  | .arr _ => .error (.valueError "dictionary update sequence element has the wrong length")
  | _ => .error (.typeError "cannot convert dictionary update sequence element to a sequence")

/-- `dict(value or {})`, of a value that may also be a sequence of pairs. -/
def dictOf (value : Json) : Except PyError Dict :=
  match value with
  | .arr items => (items.mapM asPair).map fun pairs => pairs.foldl (fun d e => Dict.set d e.1 e.2) []
  | .str s => (s.toList.mapM fun c => asPair (.str (String.ofList [c]))).map fun _ => []
  | value => asDict value

def recordAuthorization : Json :=
  let stored := Json.or (Dict.get record "authorization") (Dict.get record "Authorization")
  if !stored.truthy && Dict.truthy record "access_token" then
    .str ((Json.or (Dict.get record "token_type") (.str "Bearer")).pyStr ++ " " ++
      (Dict.get record "access_token").pyStr)
  else stored

/-- `d[key] = value`, where there is a value. -/
def setTruthy (d : Dict) (key : String) (value : Json) : Dict := if value.truthy then Dict.set d key value else d

/-- The headers and cookies of a record. -/
def recordSecrets : Except PyError (Dict × Dict) := do
  let headers ← dictOf (Dict.get record "headers")
  let cookies ← dictOf (Dict.get record "cookies")
  return (setTruthy (setTruthy headers "Authorization" (recordAuthorization record)) "Cookie"
    (Dict.get record "cookie"), cookies)

/-- The same, as a context holds them. -/
def recordCredentials : Except PyError (Mapping String × Mapping String) := do
  let (headers, cookies) ← recordSecrets record
  return (← validateSecretMapping true headers, ← validateSecretMapping false cookies)

/-! ## The provider -/

/-- How dates and the expiry of a token are read: `_utc_naive` and `_jwt_exp`. -/
structure TimeReader where
  utcNaive : Json → Except PyError (Option Timestamp)
  jwtExp : String → Option Timestamp

/-- `JsonFileAccountContextProvider`. -/
structure JsonFileProvider where
  providerId : String
  defaultProjectId : String := ""
  defaultEnvId : String := ""
  allowedHosts : List String := []
  maxAgeSeconds : Int := 1800

def readyStatuses : List String := ["", "active", "ok", "ready", "success", "valid"]

/-- When a record expires; one without an expiry of its own is bounded by the age of the file. -/
def recordExpiry (reader : TimeReader) (record document : Dict) (mtime : Timestamp) (maxAge : Int) :
    Except PyError (Option Timestamp × Option Timestamp) := do
  let explicit ← reader.utcNaive (Json.or (Json.or (Dict.get record "expires_at") (Dict.get record "expiresAt"))
    (Dict.get record "expiresHint"))
  let expiries := explicit.toList ++ (reader.jwtExp (recordAuthorization record).strOrEmpty).toList
  let issuedAt ← reader.utcNaive (Json.or (Json.or (Dict.get record "issued_at") (Dict.get record "issuedAt"))
    (Dict.get document "createdAt"))
  let nonExpiring := Dict.truthy record "non_expiring" || Dict.truthy record "nonExpiring"
  match expiries.min? with
  | some expiry => return (some expiry, issuedAt)
  | none =>
    if nonExpiring then return (none, issuedAt)
    else return (some (issuedAt.getD mtime + maxAge), issuedAt)

def recordToContext (reader : TimeReader) (p : JsonFileProvider) (record : Dict) (ref : AccountContextRef)
    (document : Dict) (mtime : Timestamp) : Except PyError AccountContext := do
  let projectId := stripped (Json.or (Json.or (Dict.get record "project_id") (Dict.get document "project_id"))
    (.str p.defaultProjectId)).pyStr
  let envId := stripped (Json.or (Json.or (Dict.get record "env_id") (Dict.get document "env_id"))
    (.str p.defaultEnvId)).pyStr
  let accountId := stripped (Json.or (Json.or (Dict.get record "account_id") (Dict.get record "username"))
    (.str ref.accountId)).pyStr
  let contextRef := stripped (Json.or (Dict.get record "context_ref") (.str ref.effectiveContextRef)).pyStr
  if projectId ≠ ref.projectId ∨ envId ≠ ref.envId then throw contextMismatch
  else if !readyStatuses.contains (lower (recordText record "status")) then throw contextUnavailable
  else
    let (headers, cookies) ← recordSecrets record
    let (expiresAt, issuedAt) ← recordExpiry reader record document mtime p.maxAgeSeconds
    let allowedHosts := Json.or (Json.or (Json.or (Json.or (Dict.get record "allowed_hosts")
      (Dict.get record "allowedHosts")) (Dict.get document "allowed_hosts")) (Dict.get document "allowedHosts"))
      (.arr (p.allowedHosts.map .str))
    let shared ← dictOf (Dict.get document "metadata")
    let own ← dictOf (Dict.get record "metadata")
    ContextFields.build {
      projectId := projectId, envId := envId, accountId := accountId, providerId := p.providerId
      contextRef := contextRef, headers := headers, cookies := cookies
      authKind := (Json.or (Json.or (Dict.get record "auth_kind") (Dict.get record "authKind")) (.str "opaque")).pyStr
      expiresAt := expiresAt, issuedAt := issuedAt, allowedHosts := allowedHosts
      metadata := own.foldl (fun d e => Dict.set d e.1 e.2) shared }

/-- Legacy names of a record resolve to the identity of the reference. -/
def underReference (c : AccountContext) (ref : AccountContextRef) (index : Nat) :
    Except PyError AccountContext :=
  if c.accountId ≠ ref.accountId ∨ c.contextRef ≠ ref.effectiveContextRef then
    ContextFields.build {
      projectId := c.projectId, envId := c.envId, accountId := ref.accountId, providerId := c.providerId
      contextRef := ref.effectiveContextRef, headers := asValues c.headers, cookies := asValues c.cookies
      authKind := c.authKind, expiresAt := c.expiresAt, issuedAt := c.issuedAt
      allowedHosts := .arr (c.allowedHosts.map .str), metadata := [("record_index", .int index)] }
  else .ok c

/-- Whether the record goes by the names of the reference. -/
def goesBy (ref : AccountContextRef) (record : Dict × Nat) : Bool :=
  (recordCandidates record.1 record.2).contains ref.accountId &&
    (ref.contextRef == "" || (recordCandidates record.1 record.2).contains ref.contextRef)

/-- The first record that goes by the names of the reference, with its place. -/
def firstMatch (ref : AccountContextRef) (records : List Dict) : Option (Dict × Nat) :=
  records.zipIdx.find? (goesBy ref)

/-- What `resolve` makes of the record it has matched. -/
def contextOf (reader : TimeReader) (p : JsonFileProvider) (ref : AccountContextRef) (document : Dict)
    (mtime now : Timestamp) (record : Dict × Nat) : Except PyError AccountContext := do
  let c ← recordToContext reader p record.1 ref document mtime
  let c ← underReference c ref record.2
  c.validate ref "" 0 now

/-- `JsonFileAccountContextProvider.resolve`, over what `_load` answers. -/
def resolve (reader : TimeReader) (p : JsonFileProvider) (ref : AccountContextRef)
    (loaded : Except PyError (Dict × Timestamp)) (now : Timestamp) : Except PyError AccountContext := do
  ref.validate
  if ref.providerId ≠ p.providerId then throw contextMismatch
  else
    let (document, mtime) ← loaded
    let records ← recordsFromDocument document
    match firstMatch ref records with
    | none => throw contextUnavailable
    | some record => contextOf reader p ref document mtime now record

/-! ## Whose credentials are returned -/

/-- The account a record names itself. -/
def explicitId : String := recordText record "account_id"

variable {reader : TimeReader} {p : JsonFileProvider} {ref : AccountContextRef} {c : AccountContext}

theorem recordToContext_credentials {record document : Dict} {mtime : Timestamp}
    (h : recordToContext reader p record ref document mtime = .ok c) :
    recordCredentials record = .ok (c.headers, c.cookies) := by
  unfold recordToContext at h
  dsimp only at h
  split at h
  · cases h
  · split at h
    · cases h
    · simp only [bind_eq_ok, Prod.exists] at h
      obtain ⟨headers, cookies, secrets, _, _, _, _, _, _, _, built⟩ := h
      obtain ⟨hh, hc, _⟩ := ContextFields.build_ok built
      unfold recordCredentials
      simp only [bind_eq_ok, Prod.exists]
      exact ⟨headers, cookies, secrets, c.headers, hh, c.cookies, hc, rfl⟩

theorem underReference_credentials {d : AccountContext} {index : Nat}
    (h : underReference c ref index = .ok d) : d.headers = c.headers ∧ d.cookies = c.cookies := by
  unfold underReference at h
  split at h
  · obtain ⟨hh, hc, _⟩ := ContextFields.build_ok h
    rw [validateSecretMapping_asValues c.sendableHeaders] at hh
    rw [validateSecretMapping_asValues c.sendableCookies] at hc
    exact ⟨(Except.ok.inj hh).symm, (Except.ok.inj hc).symm⟩
  · cases h
    exact ⟨rfl, rfl⟩

/-- A context holds the credentials of the record it was made of. -/
theorem contextOf_credentials
    {document : Dict} {mtime now : Timestamp} {record : Dict × Nat}
    (h : contextOf reader p ref document mtime now record = .ok c) :
    recordCredentials record.1 = .ok (c.headers, c.cookies) := by
  unfold contextOf at h
  simp only [bind_eq_ok] at h
  obtain ⟨made, fromRecord, renamed, under, valid⟩ := h
  obtain ⟨rfl, _⟩ := AccountContext.validate_ok valid
  obtain ⟨headers, cookies⟩ := underReference_credentials under
  rw [recordToContext_credentials fromRecord, headers, cookies]

/-- The inversion of a call that returns. -/
theorem resolve_ok {document : Dict}
    {mtime now : Timestamp} {records : List Dict} (parsed : recordsFromDocument document = .ok records) :
    resolve reader p ref (.ok (document, mtime)) now = .ok c ↔
      ref.validate = .ok () ∧ ref.providerId = p.providerId ∧
        ∃ first, firstMatch ref records = some first ∧ contextOf reader p ref document mtime now first = .ok c := by
  unfold resolve
  simp only [bind_eq_ok]
  constructor
  · rintro ⟨_, valid, h⟩
    split at h
    · cases h
    · next same =>
      simp only [bind_eq_ok, Prod.exists, Except.ok.injEq, Prod.mk.injEq] at h
      obtain ⟨_, _, ⟨rfl, rfl⟩, rs, found, h⟩ := h
      rw [parsed] at found
      cases found
      cases first : firstMatch ref records with
      | none => simp [first] at h
      | some record => exact ⟨valid, not_not.mp same, record, rfl, by simpa [first] using h⟩
  · rintro ⟨valid, same, first, found, made⟩
    refine ⟨(), valid, ?_⟩
    rw [if_neg (not_not.mpr same)]
    simp only [bind_eq_ok, Prod.exists, Except.ok.injEq, Prod.mk.injEq]
    exact ⟨_, _, ⟨rfl, rfl⟩, records, parsed, by simpa [found] using made⟩

/-- Where some record carries the account of the reference as its own, the call is refused or
returns the credentials of such a record. -/
def OwnCredentials (reader : TimeReader) (p : JsonFileProvider) (ref : AccountContextRef) (document : Dict)
    (mtime now : Timestamp) : Prop :=
  ∀ records, recordsFromDocument document = .ok records →
    (∃ record ∈ records, explicitId record = ref.accountId) →
    ∀ c, resolve reader p ref (.ok (document, mtime)) now = .ok c →
      ∃ record ∈ records, explicitId record = ref.accountId ∧
        recordCredentials record = .ok (c.headers, c.cookies)

/-- Where some record carries the account of the reference as its own, the first record that goes by
the names of the reference does, or has the credentials of one that does, or is refused. -/
def OwnRecordFirst (reader : TimeReader) (p : JsonFileProvider) (ref : AccountContextRef) (document : Dict)
    (mtime now : Timestamp) : Prop :=
  ∀ records, recordsFromDocument document = .ok records →
    (∃ record ∈ records, explicitId record = ref.accountId) →
    ∀ first, firstMatch ref records = some first → ref.validate = .ok () → ref.providerId = p.providerId →
      (contextOf reader p ref document mtime now first).isOk = true →
      ∃ record ∈ records, explicitId record = ref.accountId ∧
        recordCredentials record = recordCredentials first.1

/-- **Own account.** A reference never resolves to another account while a record carries its own
exactly when the file lists no other record first that goes by its names. -/
theorem resolve_own_account (reader : TimeReader) (p : JsonFileProvider) (ref : AccountContextRef)
    (document : Dict) (mtime now : Timestamp) :
    OwnCredentials reader p ref document mtime now ↔ OwnRecordFirst reader p ref document mtime now := by
  constructor
  · intro own records parsed carried first found valid same accepted
    obtain ⟨c, made⟩ : ∃ c, contextOf reader p ref document mtime now first = .ok c := by
      cases made : contextOf reader p ref document mtime now first with
      | ok c => exact ⟨c, rfl⟩
      | error e => simp [made, Except.isOk, Except.toBool] at accepted
    have returned := (resolve_ok parsed).mpr ⟨valid, same, first, found, made⟩
    obtain ⟨record, mem, id, credentials⟩ := own records parsed carried c returned
    exact ⟨record, mem, id, credentials.trans (contextOf_credentials made).symm⟩
  · intro ordered records parsed carried c returned
    obtain ⟨valid, same, first, found, made⟩ := (resolve_ok parsed).mp returned
    have accepted : (contextOf reader p ref document mtime now first).isOk = true := by
      rw [made]
      rfl
    obtain ⟨record, mem, id, credentials⟩ := ordered records parsed carried first found valid same accepted
    exact ⟨record, mem, id, credentials.trans (contextOf_credentials made)⟩

/-- Two accounts, the first of which has the name of the second as its alias. -/
def aliasedAccounts : Dict := [
  ("project_id", .str "p"), ("env_id", .str "formal"), ("allowed_hosts", .arr [.str "api.example.test"]),
  ("accounts", .arr [
    .obj [("account_id", .str "guest"), ("alias", .str "owner"), ("authorization", .str "Bearer guest"),
      ("non_expiring", .bool true)],
    .obj [("account_id", .str "owner"), ("authorization", .str "Bearer owner"),
      ("non_expiring", .bool true)]])]

/-- A reader that knows dates as numbers, and no tokens. -/
def plainReader : TimeReader where
  utcNaive
    | .int n => .ok (some n)
    | .null => .ok none
    | .str s => if s == "" then .ok none else .error contextInvalid
    | _ => .error contextInvalid
  jwtExp _ := none

/-- The account listed first answers to the name of the other. -/
theorem resolve_other_account : ¬ ∀ (reader : TimeReader) (p : JsonFileProvider) (ref : AccountContextRef)
    (document : Dict) (mtime now : Timestamp), OwnCredentials reader p ref document mtime now := by
  intro own
  let p : JsonFileProvider := { providerId := "local" }
  let ref : AccountContextRef := { projectId := "p", envId := "formal", accountId := "owner", providerId := "local" }
  have returned : (resolve plainReader p ref (.ok (aliasedAccounts, 0)) 0).toOption.map (·.headers.items) =
      some [("Authorization", "Bearer guest")] := by decide +kernel
  obtain ⟨c, made, headers⟩ := Option.map_eq_some_iff.mp returned
  obtain ⟨records, parsed⟩ : ∃ records, recordsFromDocument aliasedAccounts = .ok records := ⟨_, rfl⟩
  have carried : ∃ record ∈ records, explicitId record = "owner" := by
    cases parsed
    decide +kernel
  obtain ⟨record, mem, id, credentials⟩ :=
    own plainReader p ref aliasedAccounts 0 0 records parsed carried c (toOption_eq_some.mp made)
  have other : ∀ record ∈ records, explicitId record = "owner" →
      (recordCredentials record).toOption.map (·.1.items) ≠ some [("Authorization", "Bearer guest")] := by
    cases parsed
    decide +kernel
  refine other record mem id ?_
  rw [credentials, ← headers]
  rfl

end ApiManger.Account
