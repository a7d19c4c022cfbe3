import ApiManger.Recipe.Totality
import ApiManger.Repair.Verification

/-!
# Verification attempts of recipes

`RecipeAccountContextProvider.resolve_profile_revision` of
`apiAnalysis/tool/project_auth.py`: the recipe of a revision chain is executed, and what it
returns becomes an account context. Around it, `verify_project_auth_profile` stores how the
attempt ended.
-/

namespace ApiManger.Recipe
open Python Account Store Imperative Interleaving

/-! ## Documents -/

/-- The fields of a revision, its realm and its adapter that a login reads. -/
structure LoginChain where
  profileRevisionId : String
  projectAccountKey : String
  authKind : String := ""
  maxAgeSeconds : Int := 1800
  realmRevisionId : String := ""
  authOrigins : List String
  config : Dict := []
  tlsVerify : Bool := true
  adapterVersionId : String := ""
  recipe : Json
  allowedAuthOrigins : List String

/-- A profile, and what `_load_revision_chain`, `_credentials`, `_realm_secrets` and `_allowed_business_hosts` find for
it: there is no chain where the first one raises. `tokenExpiry` and `credentialStage` stand for `_token_expiry` and
`recipe_output_credential_stage`. -/
structure Login where
  profileId : String
  projectId : String
  envId : String
  chain : Option LoginChain
  credentials : Except PyError Dict
  realmSecrets : Except PyError Dict
  allowedBusinessHosts : Except PyError (List String)
  tokenExpiry : String → Option Timestamp
  credentialStage : Dict → String

/-- The arguments of `execute`. -/
def LoginChain.call (chain : LoginChain) (credentials realmSecrets : Dict) : LoginCall where
  recipe := chain.recipe
  credentials := credentials
  realmAuthOrigins := chain.authOrigins
  adapterAuthOrigins := chain.allowedAuthOrigins
  realmConfig := chain.config
  realmSecrets := realmSecrets
  tlsVerify := chain.tlsVerify

/-! ## The account context -/

def LoginChain.keptKind (chain : LoginChain) (result : RecipeExecutionResult) : String :=
  lower (orText chain.authKind (orText result.authKind "mixed"))

def LoginChain.keptHeaders (chain : LoginChain) (result : RecipeExecutionResult) : Mapping String :=
  if ["bearer", "mixed"].contains (chain.keptKind result) then result.headers else .empty

/-- The cookies that are kept. -/
def LoginChain.keptCookies (chain : LoginChain) (result : RecipeExecutionResult) : Mapping String :=
  if ["cookie", "mixed"].contains (chain.keptKind result) then result.cookies else .empty

/-- The value of the `Authorization` header. -/
def authorizationOf (headers : Mapping String) : String :=
  ((headers.items.find? fun e => lower e.1 == "authorization").map (·.2)).getD ""

namespace Login
variable (login : Login)

def reference (chain : LoginChain) : AccountContextRef where
  projectId := login.projectId
  envId := login.envId
  accountId := chain.projectAccountKey
  providerId := Repair.authRecipeProviderId
  contextRef := chain.profileRevisionId

/-- When the credentials expire: as the recipe says, else as their token says, else at the greatest age. -/
def expiry (chain : LoginChain) (result : RecipeExecutionResult) (now : Timestamp) : Timestamp :=
  (result.expiresAt <|> login.tokenExpiry (authorizationOf (chain.keptHeaders result))).getD
    (now + max 60 (min (if chain.maxAgeSeconds = 0 then 1800 else chain.maxAgeSeconds) 86400))

/-- The arguments of `AccountContext(...)`. -/
def contextFields (chain : LoginChain) (hosts : List String) (result : RecipeExecutionResult) (now : Timestamp) :
    ContextFields where
  projectId := login.projectId
  envId := login.envId
  accountId := chain.projectAccountKey
  providerId := Repair.authRecipeProviderId
  contextRef := (login.reference chain).effectiveContextRef
  headers := asValues (chain.keptHeaders result)
  cookies := asValues (chain.keptCookies result)
  authKind := chain.keptKind result
  expiresAt := some (login.expiry chain result now)
  issuedAt := some now
  allowedHosts := .arr (hosts.map .str)
  metadata := [("profile_id", .str login.profileId), ("profile_revision_id", .str chain.profileRevisionId),
    ("realm_revision_id", .str chain.realmRevisionId), ("adapter_version_id", .str chain.adapterVersionId),
    ("auth_template", .str (Dict.get (fieldsOf chain.recipe) "template").strOrEmpty),
    ("credential_stage", .str (login.credentialStage (fieldsOf chain.recipe))),
    ("auth_request_count", .int result.requestCount), ("tls_verify", .bool chain.tlsVerify),
    ("business_identity", .obj (asValues result.businessIdentity))]

/-- What `_resolve_loaded_chain` does inside its handlers. -/
def authenticate (o : Outside) (x : Executor) (chain : LoginChain) : Code AccountContext := do
  let credentials ← python login.credentials
  let realmSecrets ← python login.realmSecrets
  let hosts ← python login.allowedBusinessHosts
  let result ← execute o x (chain.call credentials realmSecrets)
  let s ← Routine.get
  python (login.contextFields chain hosts result (o.utcnow (s.moment + 1))).build

def expectedErrors : List PyError := [contextInvalid, contextUnavailable, contextMismatch]

/-- `except AuthRecipeFailure`, `except (AccountContextInvalid, ...)` and `except Exception`. -/
def onError (e : RecipeError) : Code AccountContext :=
  match e with
  | .failure f => .raise (.failure f)
  | .python e =>
    if expectedErrors.contains e then .raise (.python e)
    else .raise (.failure (.make "ADAPTER_RUNTIME_ERROR" "runtime" 0 []))
  | .send _ => .raise (.failure (.make "ADAPTER_RUNTIME_ERROR" "runtime" 0 []))

def resolveLoadedChain (o : Outside) (x : Executor) (chain : LoginChain) : Code AccountContext :=
  if (login.reference chain).effectiveContextRef ≠ chain.profileRevisionId then .raise (.python contextMismatch)
  else do
    let context ← .handle (login.authenticate o x chain) onError
    let s ← Routine.get
    python (context.validate (login.reference chain) "" 0 (o.utcnow (s.moment + 2)))

def resolveProfileRevision (o : Outside) (x : Executor) : Code AccountContext :=
  match login.chain with
  | none => .raise (.python contextInvalid)
  | some chain => do
    python (login.reference chain).validate
    login.resolveLoadedChain o x chain

/-- `int((context.metadata or {}).get("auth_request_count") or 0)`. -/
def requestCountOf (context : AccountContext) : Int :=
  match Dict.get context.metadata "auth_request_count" with
  | .int n => n
  | _ => 0

/-- The handler of `verify_project_auth_profile` that an outcome comes to. -/
def verdictOf : Except RecipeError AccountContext → Repair.Verdict
  | .ok context => .authenticated (requestCountOf context)
  | .error (.failure f) => .recipeFailure f.code f.requestCount
  | .error (.python (.accountContextError cls)) =>
    if expectedErrors.contains (.accountContextError cls) then .accountContextError cls else .otherError cls
  | .error (.python _) | .error (.send _) => .otherError "Exception"

/-! ## Attempts -/

/-- What `verify_project_auth_profile` leaves of a store, from the row of the attempt on. -/
def verify (o : Outside) (x : Executor) (call : ℕ) (attempt : Repair.VerificationAttempt) (store : Repair.RepairState) :
    Except PyError Repair.VerificationAttempt × Repair.RepairState :=
  (Repair.runAttempt attempt).alone (S := Repair.repairSignature)
    (fun op s => Repair.execRepair call op { verdict := verdictOf (login.resolveProfileRevision o x {}).1 } s) store

/-- The attempts that are stored in the end. -/
def rowsAfter (o : Outside) (x : Executor) (call : ℕ) (repairCandidateId : String) (store : Repair.RepairState) :
    List Repair.VerificationAttempt :=
  (login.verify o x call { attemptId := 0, profileId := login.profileId
                           profileRevisionId := (login.chain.map (·.profileRevisionId)).getD ""
                           repairCandidateId := repairCandidateId } store).2.attempts

def RowEnds (o : Outside) (x : Executor) (call : ℕ) (repairCandidateId : String) (store : Repair.RepairState) : Prop :=
  ∀ row ∈ login.rowsAfter o x call repairCandidateId store,
    row.attemptId = store.nextAttempt → row.status = .succeeded ∨ row.status = .failed

/-- The credentials that a recipe returns have not expired when they are checked, where a context is made of them. -/
def Unexpired (o : Outside) (x : Executor) : Prop :=
  ∀ chain credentials realmSecrets hosts result s, login.chain = some chain → (login.reference chain).validate = .ok () →
    (login.reference chain).effectiveContextRef = chain.profileRevisionId → login.credentials = .ok credentials → login.realmSecrets = .ok realmSecrets →
    login.allowedBusinessHosts = .ok hosts → execute o x (chain.call credentials realmSecrets) {} = (.ok result, s) →
    (∃ context, (login.contextFields chain hosts result (o.utcnow (s.moment + 1))).build = .ok context) →
      o.utcnow (s.moment + 2) < login.expiry chain result (o.utcnow (s.moment + 1))

/-! ### The row -/

/-- The row of an attempt that was running ends, just where a handler of `verify_project_auth_profile` is come to. -/
theorem row_ends_iff (call : ℕ) (attempt : Repair.VerificationAttempt) (running : attempt.status = .running)
    (store : Repair.RepairState) (verdict : Repair.Verdict) :
    (∀ row ∈ ((Repair.runAttempt attempt).alone (S := Repair.repairSignature)
        (fun op s => Repair.execRepair call op { verdict := verdict } s) store).2.attempts,
      row.attemptId = store.nextAttempt → row.status = .succeeded ∨ row.status = .failed) ↔
        ∀ cls, verdict ≠ .otherError cls := by
  -- a row that is saved last is of the status it was saved with
  have saved (saved : Repair.VerificationAttempt) (status : saved.status = .succeeded ∨ saved.status = .failed)
      (named : saved.attemptId = store.nextAttempt) (rows : List Repair.VerificationAttempt) :
      ∀ row ∈ rows.map (fun a => if a.attemptId == saved.attemptId then
          { a with status := saved.status, errorCode := saved.errorCode, requestCount := saved.requestCount } else a),
        row.attemptId = store.nextAttempt → row.status = .succeeded ∨ row.status = .failed := by
    intro row mem is
    obtain ⟨a, -, rfl⟩ := List.mem_map.mp mem
    split
    · exact status
    · next other =>
      rw [if_neg other] at is
      exact absurd (beq_iff_eq.mpr (is.trans named.symm)) other
  cases verdict with
  | authenticated n => exact iff_of_true (saved _ (.inl rfl) rfl _) nofun
  | recipeFailure code n => exact iff_of_true (saved _ (.inr rfl) rfl _) nofun
  | accountContextError cls => exact iff_of_true (saved _ (.inr rfl) rfl _) nofun
  | otherError cls =>
    refine iff_of_false (fun ends => ?_) fun none_ => none_ cls rfl
    have status := ends _ (List.mem_append_right _ (List.mem_singleton_self _)) rfl
    rw [running] at status
    rcases status with is | is
    · nomatch is
    · nomatch is

/-! ### The context -/

variable (o : Outside) (x : Executor)

/-- An exception that `verify_project_auth_profile` expects. -/
def Expected (e : RecipeError) : Prop := (∃ f, e = .failure f) ∨ ∃ p, e = .python p ∧ expectedErrors.contains p = true

theorem onError_expected (e : RecipeError) (s : RecipeState) : ∃ e', onError e s = (.error e', s) ∧ Expected e' := by
  unfold onError
  cases e with
  | failure f => exact ⟨_, rfl, .inl ⟨f, rfl⟩⟩
  | send e => exact ⟨_, rfl, .inl ⟨_, rfl⟩⟩
  | python e =>
    dsimp only
    cases expected : expectedErrors.contains e with
    | true => exact ⟨.python e, rfl, .inr ⟨e, rfl, expected⟩⟩
    | false => exact ⟨.failure _, rfl, .inl ⟨_, rfl⟩⟩

theorem verdict_of_expected {e : RecipeError} (expected : Expected e) : ∀ cls, verdictOf (.error e) ≠ .otherError cls := by
  intro cls
  rcases expected with ⟨f, rfl⟩ | ⟨p, rfl, expected⟩
  · exact nofun
  · have named : p = contextInvalid ∨ p = contextUnavailable ∨ p = contextMismatch := by
      simpa [expectedErrors] using expected
    rcases named with rfl | rfl | rfl
    · exact nofun
    · exact nofun
    · exact nofun

/-- The context that was made of a login is of its reference, so its check can only find it expired. -/
theorem validate_context {chain : LoginChain} {hosts : List String} {result : RecipeExecutionResult} {issued now : Timestamp}
    {context : AccountContext} (valid : (login.reference chain).validate = .ok ())
    (built : (login.contextFields chain hosts result issued).build = .ok context) :
    context.validate (login.reference chain) "" 0 now =
      if now < login.expiry chain result issued then .ok context else .error contextExpired := by
  obtain ⟨-, -, -, project, env, account, provider, ref, expires, -⟩ := ContextFields.build_ok built
  have identity : context.identity = (login.reference chain).key := by
    unfold AccountContext.identity AccountContextRef.key AccountContextRef.effectiveContextRef
    rw [project, env, account, provider, ref]
    unfold contextFields reference AccountContextRef.effectiveContextRef
    dsimp only
    split
    · split
      · rfl
      · rfl
    · rfl
  unfold AccountContext.validate
  rw [valid, if_neg (not_not.mpr identity), expires]
  show (if (decide (login.expiry chain result issued ≤ now + 0)) = true then _ else _) = _
  simp only [Int.add_zero, decide_eq_true_eq]
  by_cases later : now < login.expiry chain result issued
  · rw [if_neg (Int.not_le.mpr later), if_pos later]
    rfl
  · rw [if_pos (Int.not_lt.mp later), if_neg later]
    rfl

theorem authenticate_ok_iff (chain : LoginChain) (context : AccountContext) (s : RecipeState) :
    login.authenticate o x chain {} = (.ok context, s) ↔ ∃ credentials realmSecrets hosts result,
      login.credentials = .ok credentials ∧ login.realmSecrets = .ok realmSecrets ∧
      login.allowedBusinessHosts = .ok hosts ∧ execute o x (chain.call credentials realmSecrets) {} = (.ok result, s) ∧
      (login.contextFields chain hosts result (o.utcnow (s.moment + 1))).build = .ok context := by
  unfold authenticate
  cases credentials : login.credentials with
  | error e => exact iff_of_false nofun nofun
  | ok credentials' =>
    cases secrets : login.realmSecrets with
    | error e => exact iff_of_false nofun nofun
    | ok secrets' =>
      cases hosts : login.allowedBusinessHosts with
      | error e => exact iff_of_false nofun nofun
      | ok hosts' =>
        simp only [Routine.bind_eq, python_ok]
        rcases executed : execute o x (chain.call credentials' secrets') {} with ⟨e | result, s₁⟩
        · rw [Routine.bind_error executed]
          refine iff_of_false nofun ?_
          rintro ⟨_, _, _, result, same, same', -, executed', -⟩
          cases same
          cases same'
          nomatch executed.symm.trans executed'
        · rw [Routine.bind_ok executed, Routine.bind_get]
          constructor
          · intro built
            cases context' : (login.contextFields chain hosts' result (o.utcnow (s₁.moment + 1))).build with
            | error e =>
              rw [context'] at built
              nomatch built
            | ok c =>
              rw [context'] at built
              cases built
              exact ⟨credentials', secrets', hosts', result, rfl, rfl, rfl, executed, context'⟩
          · rintro ⟨_, _, _, result', same, same', same'', executed', built⟩
            cases same
            cases same'
            cases same''
            cases executed.symm.trans executed'
            rw [built]
            rfl

/-- What is resolved is a context, an expected error, or an expired context. -/
theorem verdict_ends_iff : (∀ cls, verdictOf (login.resolveProfileRevision o x {}).1 ≠ .otherError cls) ↔
    login.Unexpired o x := by
  unfold resolveProfileRevision Unexpired
  cases loaded : login.chain with
  | none =>
    refine iff_of_true (verdict_of_expected (.inr ⟨_, rfl, by decide⟩)) fun _ _ _ _ _ _ never => ?_
    cases never
  | some chain =>
    cases valid : (login.reference chain).validate with
    | error e =>
      have expected : Expected (.python e) := by
        unfold AccountContextRef.validate at valid
        split at valid
        · cases valid
          exact .inr ⟨_, rfl, by decide⟩
        · cases valid
      dsimp only
      rw [valid]
      refine iff_of_true (verdict_of_expected expected) fun chain' _ _ _ _ _ same valid' => ?_
      cases Option.some.inj same
      cases valid.symm.trans valid'
    | ok =>
      dsimp only
      rw [valid]
      unfold resolveLoadedChain
      by_cases ref : (login.reference chain).effectiveContextRef = chain.profileRevisionId
      · rw [if_neg (not_not.mpr ref)]
        simp only [Routine.bind_eq, python_ok]
        rcases made : login.authenticate o x chain {} with ⟨e | context, s⟩
        · obtain ⟨e', handled, expected⟩ := onError_expected e s
          have run : Routine.handle (login.authenticate o x chain) onError {} = (.error e', s) := by
            rw [Routine.handle, made]
            exact handled
          rw [Routine.bind_error run]
          refine iff_of_true (verdict_of_expected expected) ?_
          rintro chain' credentials secrets hosts result s' same - - read read' read'' executed ⟨context, built⟩
          cases Option.some.inj same
          have ok := (login.authenticate_ok_iff o x chain context s').mpr
            ⟨credentials, secrets, hosts, result, read, read', read'', executed, built⟩
          cases made.symm.trans ok
        · have run : Routine.handle (login.authenticate o x chain) onError {} = (.ok context, s) := by
            rw [Routine.handle, made]
          obtain ⟨credentials, secrets, hosts, result, read, read', read'', executed, built⟩ :=
            (login.authenticate_ok_iff o x chain context s).mp made
          rw [Routine.bind_ok run, Routine.bind_get, login.validate_context valid built]
          by_cases later : o.utcnow (s.moment + 2) < login.expiry chain result (o.utcnow (s.moment + 1))
          · rw [if_pos later]
            refine iff_of_true (fun _ never => by cases never) ?_
            rintro chain' credentials' secrets' hosts' result' s' same - - of_ of_' of_'' executed' -
            cases Option.some.inj same
            cases read.symm.trans of_
            cases read'.symm.trans of_'
            cases executed.symm.trans executed'
            exact later
          · rw [if_neg later]
            refine iff_of_false (fun none_ => none_ _ rfl) fun unexpired => later ?_
            exact unexpired chain credentials secrets hosts result s rfl valid ref read read' read'' executed ⟨context, built⟩
      · rw [if_pos ref]
        refine iff_of_true (verdict_of_expected (.inr ⟨_, rfl, by decide⟩)) ?_
        intro chain' _ _ _ _ _ same _ ref'
        cases Option.some.inj same
        exact absurd ref' ref

theorem rowEnds_iff (call : ℕ) (repairCandidateId : String) (store : Repair.RepairState) :
    login.RowEnds o x call repairCandidateId store ↔ login.Unexpired o x :=
  (row_ends_iff call _ rfl store _).trans (login.verdict_ends_iff o x)

end Login

/-- **Every attempt ends.** Of a recipe that is accepted, with any credentials and any answers, the execution returns or
raises an `AuthRecipeFailure`, and the row of the attempt ends, if and only if every field is of the form that the
operation which reads it expects and the credentials have not expired when they are checked. -/
theorem attempt_ends_iff (o : Outside) (x : Executor) (login : Login) (chain : LoginChain)
    (accepted : validateRecipe chain.recipe = .ok ()) (credentials realmSecrets : Dict) (call : ℕ)
    (repairCandidateId : String) (store : Repair.RepairState) :
    FailsOnly (execute o x (chain.call credentials realmSecrets) {}) ∧ login.RowEnds o x call repairCandidateId store ↔
      RecipeFits o x (chain.call credentials realmSecrets) ∧ login.Unexpired o x :=
  and_congr (execute_fits o x _ accepted) (login.rowEnds_iff o x call repairCandidateId store)

/-! ## Two attempts -/

def chainWith (step output : Dict) : LoginChain where
  profileRevisionId := "rev-1"
  projectAccountKey := "buyer"
  authOrigins := ["https://sso.test"]
  recipe := (loginWith step output).recipe
  allowedAuthOrigins := ["https://sso.test"]

/-- A login with one step, of a project with one host; `expired` are the tokens that expired. -/
def loginOf (step output : Dict) (expired : List String) : Login where
  profileId := "profile-1"
  projectId := "shop"
  envId := "test"
  chain := some (chainWith step output)
  credentials := .ok []
  realmSecrets := .ok []
  allowedBusinessHosts := .ok ["shop.test"]
  tokenExpiry token := if expired.contains token then some (-1) else none
  credentialStage _ := "session"

/-- Whether every row of an attempt has ended. -/
def rowsEnded (rows : List Repair.VerificationAttempt) : Bool := rows.all fun row => row.status != .running

/-- A login for a token fits. -/
theorem attempt_ends_token : RecipeFits tokenServer (.make 10 6) ((chainWith tokenStep tokenOutput).call [] []) ∧
    (loginOf tokenStep tokenOutput []).Unexpired tokenServer (.make 10 6) := by
  refine (attempt_ends_iff tokenServer (.make 10 6) (loginOf tokenStep tokenOutput []) (chainWith tokenStep tokenOutput)
    (by decide +kernel) [] [] 1 "" {}).mp ⟨fun e s run => ?_, fun row mem _ => ?_⟩
  · have returns : (execute tokenServer (.make 10 6) ((chainWith tokenStep tokenOutput).call [] []) {}).1.toOption.isSome =
        true := by decide +kernel
    rw [run] at returns
    nomatch returns
  · have ended : rowsEnded ((loginOf tokenStep tokenOutput []).rowsAfter tokenServer (.make 10 6) 1 "" {}) = true := by
      decide +kernel
    have last := List.all_eq_true.mp ended row mem
    cases status : row.status with
    | running =>
      rw [status] at last
      nomatch last
    | succeeded => exact .inl rfl
    | failed => exact .inr rfl

/-- The same server, which has an error. -/
def failingServer : Outside := { tokenServer with reply := fun _ _ => .response { statusCode := 500 } }

/-- A request whose map of statuses is a list. -/
def listedStep : Dict := tokenStep ++ [("error_status_map", .arr [.str "CREDENTIAL_REJECTED"])]

def raisesAttributeError : Except RecipeError RecipeExecutionResult × RecipeState → Bool
  | (.error (.python e), _) => e == attributeError
  | _ => false

/-- The `AttributeError` of a list leaves the execution, and a token that expired leaves the row running. -/
theorem attempt_stays_running : validateRecipe (chainWith listedStep tokenOutput).recipe = .ok () ∧
    ¬ FailsOnly (execute failingServer (.make 10 6) ((chainWith listedStep tokenOutput).call [] []) {}) ∧
    ¬ (loginOf tokenStep tokenOutput ["Bearer t1"]).RowEnds tokenServer (.make 10 6) 1 "" {} := by
  refine ⟨by decide +kernel, fun fails => ?_, fun ends => ?_⟩
  · have escapes : raisesAttributeError (execute failingServer (.make 10 6)
        ((chainWith listedStep tokenOutput).call [] []) {}) = true := by decide +kernel
    unfold raisesAttributeError at escapes
    split at escapes
    · next e s run =>
      obtain ⟨failure, same⟩ := fails _ _ run
      cases same
    · cases escapes
  · have stays : ((loginOf tokenStep tokenOutput ["Bearer t1"]).rowsAfter tokenServer (.make 10 6) 1 "" {}).any
        (fun row => row.attemptId == 0 && row.status == .running) = true := by decide +kernel
    obtain ⟨row, mem, is⟩ := List.any_eq_true.mp stays
    rw [Bool.and_eq_true, beq_iff_eq, beq_iff_eq] at is
    rcases ends row mem is.1 with status | status
    · cases is.2.symm.trans status
    · cases is.2.symm.trans status

end ApiManger.Recipe
