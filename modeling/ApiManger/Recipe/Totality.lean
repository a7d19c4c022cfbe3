import ApiManger.Recipe.Accounting

/-!
# What ends an execution

The handlers of `execute` take `KeyError`, `TypeError`, `ValueError` and the exceptions of
`requests`. A field of a recipe that is not of the form an operation expects may raise
another one, and so may two cookies of one name: these leave `execute` as they are.
-/

namespace ApiManger.Recipe
open Python Account Mfa Store Imperative

/-! ## Exceptions that are taken -/

/-- An exception that no handler takes. -/
def RecipeError.escapes : RecipeError → Bool
  | .failure _ => false
  | e => e.handled.isNone

theorem escapes_send (e : SendError) : (RecipeError.send e).escapes = (RecipeError.send e).handled.isNone := rfl

theorem escapes_python (e : PyError) : (RecipeError.python e).escapes = (RecipeError.python e).handled.isNone := rfl

/-- What a computation raises has a property. -/
def Raises {α : Type} (P : PyError → Prop) (y : Except PyError α) : Prop := ∀ e, y = .error e → P e

/-- A computation raises nothing but what the handlers take. -/
abbrev Plain {α : Type} (y : Except PyError α) : Prop := Raises (fun e => (RecipeError.python e).escapes = false) y

/-- A computation raises nothing but what is raised where nothing is found. -/
abbrev Looks {α : Type} (y : Except PyError α) : Prop := Raises (fun e => isLookupError e = true) y

section
variable {α β : Type} {P : PyError → Prop}

theorem raises_ok (a : α) : Raises P (.ok a) := fun _ same => nomatch same

theorem raises_error {e : PyError} (holds : P e) : Raises P (.error e : Except PyError α) := by
  intro e' same
  cases same
  exact holds

theorem raises_error_iff {e : PyError} : Raises P (.error e : Except PyError α) ↔ P e :=
  ⟨fun raises => raises e rfl, raises_error⟩

variable {y : Except PyError α}

theorem raises_bind_iff {f : α → Except PyError β} :
    Raises P (y >>= f) ↔ Raises P y ∧ ∀ a, y = .ok a → Raises P (f a) := by
  cases y with
  | ok a => exact ⟨fun raises => ⟨raises_ok a, fun b same => Except.ok.inj same ▸ raises⟩, fun both => both.2 a rfl⟩
  | error e => exact ⟨fun raises => ⟨fun e' same => raises e' (Except.error.inj same ▸ rfl), nofun⟩,
      fun both e' same => both.1 e' (Except.error.inj same ▸ rfl)⟩

theorem raises_bind {f : α → Except PyError β} (first : Raises P y) (rest : ∀ a, Raises P (f a)) :
    Raises P (y >>= f) :=
  raises_bind_iff.mpr ⟨first, fun a _ => rest a⟩

theorem raises_map_iff {f : α → β} : Raises P (y.map f) ↔ Raises P y := by
  cases y with
  | ok a => exact iff_of_true (raises_ok _) (raises_ok a)
  | error e => exact raises_error_iff.trans raises_error_iff.symm

theorem raises_ite {c : Prop} [Decidable c] {z : Except PyError α} (yes : Raises P y) (no : Raises P z) :
    Raises P (if c then y else z) := by
  split
  · exact yes
  · exact no

end

theorem plain_bind_iff {α β : Type} {y : Except PyError α} {f : α → Except PyError β} :
    Plain (y >>= f) ↔ Plain y ∧ ∀ a, y = .ok a → Plain (f a) :=
  raises_bind_iff

theorem plain_map_iff {α β : Type} {y : Except PyError α} {f : α → β} : Plain (y.map f) ↔ Plain y :=
  raises_map_iff

/-! ### Templates -/

variable (context : Dict) (value : Json) (step : Dict)

theorem lookup_plain (path : String) : Plain (lookup context path) := by
  unfold lookup
  split
  · exact raises_ok _
  · exact raises_error rfl

theorem substitute_plain (covered : ℕ) (text : List Char) : Plain (substitute context covered text) := by
  induction text generalizing covered with
  | nil => exact raises_ok _
  | cons c rest ih =>
    cases covered with
    | succ covered => exact ih covered
    | zero =>
      unfold substitute
      split
      · exact raises_bind (lookup_plain _ _) fun value => raises_bind (ih _) fun later => raises_ok _
      · exact raises_bind (ih 0) fun later => raises_ok _

mutual

theorem render_plain (context : Dict) : (value : Json) → Plain (render context value)
  | .obj fields => raises_bind (renderFields_plain context fields) fun _ => raises_ok _
  | .arr items => raises_bind (renderItems_plain context items) fun _ => raises_ok _
  | .str s => by
    unfold render
    split
    · exact lookup_plain _ _
    · exact raises_bind (substitute_plain context 0 s.toList) fun _ => raises_ok _
  | .null => raises_ok _
  | .bool _ => raises_ok _
  | .int _ => raises_ok _
  | .float _ => raises_ok _

theorem renderItems_plain (context : Dict) : (items : List Json) → Plain (renderItems context items)
  | [] => raises_ok _
  | x :: xs => raises_bind (render_plain context x) fun _ => raises_bind (renderItems_plain context xs) fun _ => raises_ok _

theorem renderFields_plain (context : Dict) : (fields : List (String × Json)) → Plain (renderFields context fields)
  | [] => raises_ok _
  | (_, x) :: xs => raises_bind (render_plain context x) fun _ => raises_bind (renderFields_plain context xs) fun _ =>
    raises_ok _

end

theorem renderUrl_plain : Plain (renderUrl context step) := plain_map_iff.mpr (render_plain _ _)

theorem renderField_plain (key : String) : Plain (renderField context step key) := by
  unfold renderField
  split
  · exact plain_map_iff.mpr (render_plain _ _)
  · exact raises_ok _

theorem renderPayload_plain : Plain (renderPayload context step) :=
  raises_bind (renderField_plain _ _ _) fun _ => raises_bind (renderField_plain _ _ _) fun _ =>
    raises_bind (renderField_plain _ _ _) fun _ => raises_ok _

theorem safeHeaders_plain (values : Json) : Plain (safeHeaders values) := by
  have each (fields : List (String × Json)) (result : Mapping String) : Plain (fields.foldlM (fun result e => do
      let name := stripped e.1
      let value := e.2.pyStr
      if name == "" || forbiddenRequestHeaders.contains (lower name) || !valueAllowed value then
        throw (.valueError "recipe contains an unsafe request header")
      return result.set name value) result) := by
    induction fields generalizing result with
    | nil => exact raises_ok _
    | cons e rest ih =>
      rw [List.foldlM_cons]
      refine raises_bind ?_ fun next => ih next
      dsimp only
      split
      · exact raises_error rfl
      · exact raises_ok _
  unfold safeHeaders
  split
  · exact each _ _
  · exact raises_error rfl

theorem renderHeaders_plain : Plain (renderHeaders context step) :=
  raises_bind (render_plain _ _) fun _ => safeHeaders_plain _

theorem normalizeOrigin_plain (o : Outside) (value : String) : Plain (normalizeOrigin o value) := by
  unfold normalizeOrigin
  refine raises_ite (raises_ok _) (raises_ite (raises_error rfl) (raises_ite (raises_ok _) ?_))
  split
  · exact raises_ok _
  · exact raises_ok _

theorem joinUrl_plain (o : Outside) (base target : String) : Plain (joinUrl o base target) := by
  unfold joinUrl
  split
  · exact raises_ok _
  · exact raises_error rfl

/-! ### Numbers -/

/-- A float that is infinite. -/
def isInfinite : Json → Bool
  | .float text => text == "Infinity" || text == "-Infinity"
  | _ => false

theorem isInfinite_truthy {value : Json} (infinite : isInfinite value = true) : value.truthy = true := by
  cases value with
  | float text =>
    rcases Bool.or_eq_true_iff.mp infinite with same | same
    · rw [beq_iff_eq.mp same]
      rfl
    · rw [beq_iff_eq.mp same]
      rfl
  | null | bool | int | str | arr | obj => nomatch infinite

theorem toInt_plain : Plain value.toInt := by
  cases value with
  | int | bool => exact raises_ok _
  | null | arr | obj => exact raises_error rfl
  | float text =>
    simp only [Json.toInt]
    split
    · exact raises_ok _
    · exact raises_error rfl
  | str s =>
    simp only [Json.toInt]
    split
    · exact raises_ok _
    · exact raises_error rfl

theorem floatInt_plain_iff (text : String) : Plain (floatInt text) ↔ isInfinite (.float text) = false := by
  have body : ((if text.toList.head? == some '-' then text.toList.drop 1 else text.toList) == "Infinity".toList) =
      isInfinite (.float text) := by
    rw [Bool.eq_iff_iff]
    simp only [isInfinite, Bool.or_eq_true, beq_iff_eq, ← String.toList_inj]
    constructor
    · intro same
      split at same
      · next minus =>
        obtain ⟨rest, is⟩ := List.head?_eq_some_iff.mp minus
        rw [is] at same ⊢
        exact .inr (congrArg ('-' :: ·) same)
      · exact .inl same
    · rintro (same | same)
      · rw [same]
        rfl
      · rw [same]
        rfl
  unfold floatInt
  dsimp only
  rw [body]
  cases isInfinite (.float text) with
  | true => exact raises_error_iff
  | false =>
    refine iff_of_true ?_ rfl
    rw [if_neg Bool.false_ne_true]
    split
    · exact raises_ok _
    · exact raises_error rfl

theorem asInt_plain_iff : Plain (asInt value) ↔ isInfinite value = false := by
  cases value with
  | float text => exact floatInt_plain_iff text
  | null => exact iff_of_true (toInt_plain .null) rfl
  | bool b => exact iff_of_true (toInt_plain (.bool b)) rfl
  | int n => exact iff_of_true (toInt_plain (.int n)) rfl
  | str s => exact iff_of_true (toInt_plain (.str s)) rfl
  | arr items => exact iff_of_true (toInt_plain (.arr items)) rfl
  | obj fields => exact iff_of_true (toInt_plain (.obj fields)) rfl

theorem valueOr_int_infinite (default : Int) : isInfinite (valueOr value (.int default)) = isInfinite value := by
  unfold valueOr
  split
  · rfl
  · next falsy =>
    cases infinite : isInfinite value with
    | true => exact absurd (isInfinite_truthy infinite) falsy
    | false => rfl

theorem clampedInt_plain_iff (default low high : Int) :
    Plain (clampedInt value default low high) ↔ isInfinite value = false := by
  unfold clampedInt
  rw [plain_map_iff, asInt_plain_iff, valueOr_int_infinite]

/-- The first of some values that is no number. -/
def firstUnread (items : List Json) : Option Json := items.find? fun item => (asInt item).toOption.isNone

/-- The statuses that a field lists are read without an overflow: the first that is no number is no infinite float. -/
def statusesFit : Bool :=
  match iterate value with
  | .ok items => (firstUnread items).all (!isInfinite ·)
  | .error _ => true

theorem statusesOf_plain_iff : Plain (statusesOf value) ↔ statusesFit value = true := by
  have each (items : List Json) : Plain (items.mapM asInt) ↔ (firstUnread items).all (!isInfinite ·) = true := by
    induction items with
    | nil => exact iff_of_true (raises_ok _) rfl
    | cons item rest ih =>
      rw [List.mapM_cons, plain_bind_iff, firstUnread, List.find?_cons]
      cases read : asInt item with
      | error e =>
        have first := asInt_plain_iff item
        rw [read] at first
        refine Iff.trans ⟨fun both => first.mp both.1, fun finite => ⟨first.mpr finite, nofun⟩⟩ ?_
        show isInfinite item = false ↔ (!isInfinite item) = true
        rw [Bool.not_eq_true']
      | ok n =>
        refine Iff.trans ⟨fun both => (plain_bind_iff.mp (both.2 n rfl)).1, fun later => ⟨raises_ok n, fun m _ => ?_⟩⟩ ih
        exact raises_bind later fun _ => raises_ok _
  unfold statusesOf statusesFit
  rw [plain_bind_iff]
  cases listed : iterate value with
  | ok items => exact ⟨fun both => (each items).mp (both.2 items rfl),
      fun fits => ⟨raises_ok items, fun items' same => Except.ok.inj same ▸ (each items).mpr fits⟩⟩
  | error e =>
    refine iff_of_true ⟨?_, nofun⟩ rfl
    cases value with
    | arr | obj | str => nomatch listed
    | null | bool | int | float =>
      cases listed
      exact raises_error rfl

/-- A number that is too large for a float. -/
def isHuge : Json → Bool
  | .int n => decide (floatBound ≤ n.natAbs)
  | _ => false

theorem checkFloat_plain_iff : Plain (checkFloat value) ↔ isHuge value = false := by
  cases value with
  | int n =>
    simp only [checkFloat, isHuge, decide_eq_false_iff_not]
    split
    · next huge => exact iff_of_false (fun plain => nomatch plain _ rfl) (fun fits => fits huge)
    · next fits => exact iff_of_true (raises_ok _) fits
  | bool | float => exact iff_of_true (raises_ok _) rfl
  | null | arr | obj => exact iff_of_true (raises_error rfl) rfl
  | str s =>
    refine iff_of_true ?_ rfl
    simp only [checkFloat]
    split
    · exact raises_ok _
    · exact raises_error rfl

/-! ### Mappings and cookies -/

/-- A mapping, or empty. -/
def isMappingOr : Json → Bool
  | .obj _ => true
  | value => !value.truthy

theorem mappingOr_plain_iff : Plain (mappingOr value) ↔ isMappingOr value = true := by
  unfold mappingOr
  cases truthy : value.truthy with
  | false =>
    refine iff_of_true (raises_ok _) ?_
    cases value <;> simp_all [isMappingOr]
  | true =>
    rw [if_pos rfl]
    cases value with
    | obj fields => exact iff_of_true (raises_ok _) rfl
    | null | bool | int | float | str | arr =>
      refine iff_of_false (fun plain => ?_) fun mapping => ?_
      · cases plain _ rfl
      simp only [isMappingOr, truthy] at mapping
      cases mapping

theorem isFailureCode_plain (code : Json) : Plain (isFailureCode code) := by
  cases code with
  | str | null | bool | int | float => exact raises_ok _
  | arr | obj => exact raises_error rfl

theorem statusFailureCode_plain_iff (status : Int) (step : Dict) :
    Plain (statusFailureCode status step) ↔ isMappingOr (Dict.get step "error_status_map") = true := by
  unfold statusFailureCode
  rw [plain_bind_iff, mappingOr_plain_iff]
  refine ⟨And.left, fun mapping => ⟨mapping, fun fields _ => raises_bind (isFailureCode_plain _) fun known => ?_⟩⟩
  split
  · exact raises_ok _
  · exact raises_ok _

def conflicts (jar : List Cookie) (name : String) : Bool := decide (2 ≤ (jar.filter (·.name == name)).length)

/-- A name is looked up in vain, or it is of two cookies. -/
theorem cookieNamed_looks_iff (jar : List Cookie) (name : String) :
    Looks (cookieNamed jar name) ↔ conflicts jar name = false := by
  unfold cookieNamed conflicts
  rw [decide_eq_false_iff_not]
  split
  · next none_ =>
    rw [none_]
    exact iff_of_true (raises_error rfl) (by decide)
  · next one =>
    rw [one]
    refine iff_of_true (raises_ite (raises_error rfl) (raises_ok _)) (by simp)
  · next none_ not_one =>
    refine iff_of_false (fun looks => nomatch looks _ rfl) (not_not.mpr ?_)
    match listed : jar.filter (·.name == name) with
    | [] => exact absurd listed none_
    | [cookie] => exact absurd listed (not_one cookie)
    | _ :: _ :: _ =>
      rw [listed]
      simp

/-! ## The condition -/

/-- A public key is none that `cryptography` does not support. -/
def keyFits (o : Outside) (value : Json) : Bool :=
  let encoded := stripped value.strOrEmpty
  encoded == "" || decide (32768 < encoded.utf8ByteSize) ||
    o.loadKey (containsText encoded "BEGIN CERTIFICATE") encoded != .unsupported

/-- The key of a step that encrypts. -/
def SetFits (o : Outside) (step context : Dict) : Prop :=
  strOr (Dict.get step "operation") "literal" = "rsa_encrypt" →
    (∃ value, render context ((Dict.get? step "value").getD (.str "")) = .ok value) → ∀ key,
      render context (valueOr (Dict.get step "public_key") (valueOr (Dict.get step "key") (.str ""))) = .ok key →
        keyFits o key = true

/-- The numbers of a poll are read without an overflow, each where the ones in front of it are read. -/
def NumbersFit (x : Executor) (step : Dict) : Prop :=
  isInfinite (Dict.get step "timeout_seconds") = false ∧
    ∀ timeout, clampedInt (Dict.get step "timeout_seconds") x.timeoutSeconds 1 30 = .ok timeout →
  isInfinite (Dict.get step "max_attempts") = false ∧
    ∀ attempts, clampedInt (Dict.get step "max_attempts") 1 1 6 = .ok attempts →
  isHuge (valueOr (Dict.get step "poll_interval_seconds") (.int 0)) = false ∧
    (checkFloat (valueOr (Dict.get step "poll_interval_seconds") (.int 0)) = .ok () →
  statusesFit (valueOr (Dict.get step "success_statuses") (.arr [.int 200])) = true ∧
    ∀ accepted, statusesOf (valueOr (Dict.get step "success_statuses") (.arr [.int 200])) = .ok accepted →
  statusesFit (valueOr (Dict.get step "not_ready_statuses") (.arr [.int 202])) = true)

/-- An accepted answer to a poll, of which one of two cookies of a name is read. -/
def Poll.conflicting (p : Poll) (r : Response) (jar : List Cookie) : Bool :=
  p.accepted.contains r.statusCode && (strOr (Dict.get p.rule "source") "json" == "cookie" &&
    conflicts jar (strOr (Dict.get p.rule "name") "mfa_code"))

/-- What a poll comes to: a refused status finds a mapping, and the cookie that is read is the only one of its name. -/
def Poll.Fits (o : Outside) (x : Executor) (p : Poll) (payload : Except PyError Payload) :
    ℕ → ℕ → RecipeState → Prop
  | 0, _, _ => True
  | left + 1, count, s => x.maxRequests ≤ count ∨ match payload with
    | .error _ => True
    | .ok payload' => match o.reply s.moment (p.request payload') with
      | .raised _ => True
      | .response r =>
        let row := pollRow p.stage p.method p.origin p.url r.statusCode (p.maxAttempts - left) p.tlsVerify
        let s' := { s with sent := s.sent ++ [p.request payload'], diagnostics := s.diagnostics ++ [row] }
        p.conflicting r (o.jar s'.moment) = false ∧ match p.turn r (o.jar s'.moment) with
        | .again => Poll.Fits o x p payload left (count + 1) s'
        | .refused => isMappingOr (Dict.get p.step "error_status_map") = true
        | .raised _ | .code _ => True

/-- A step that waits for a code. -/
structure MfaFits (o : Outside) (x : Executor) (call : LoginCall) (allowed : List String) (step context : Dict)
    (s : RecipeState) : Prop where
  pushed : isPush step = true → (∃ id, normalizeReceiverId (Dict.get step "receiver_id").strOrEmpty = .ok id) →
    (∃ value, render context (valueOr (Dict.get step "correlation") (.str "")) = .ok value) →
      isInfinite (Dict.get step "timeout_seconds") = false
  polled : isPush step = false → ∀ url origin, renderUrl context step = .ok url → normalizeOrigin o url = .ok origin →
    origin ≠ "" → origin ∈ allowed → ∀ headers, renderHeaders context step = .ok headers → NumbersFit x step ∧
      ∀ poll, preparePoll x call (firstChars (strOr (Dict.get step "id") "mfa_receive") 80) step context url origin =
        .ok poll → poll.Fits o x (renderPayload context step) poll.maxAttempts s.requestCount s

namespace StepFrame
variable (f : StepFrame)

/-- What a response has at `json_error_path`. -/
def errorValue (r : Response) : Option Json :=
  let path := (Dict.get f.step "json_error_path").strOrEmpty
  if path == "" then none
  else match r.document.bind (jsonPath · path) with
    | .ok value => if value.truthy then some value else none
    | .error _ => none

/-- A rule that reads one of two cookies of its name. -/
def conflicting (jar : List Cookie) (e : String × Json) : Bool :=
  strOr (Dict.get (ruleOf e.2) "source") "json" == "cookie" && conflicts jar (strOr (Dict.get (ruleOf e.2) "name") e.1)

/-- Whether the rules behind a rule are read. -/
def goesOn (r : Response) (url : String) (jar : List Cookie) (e : String × Json) : Bool :=
  (extractValue r url jar e.1 (ruleOf e.2)).toOption.isSome || !isRequired (ruleOf e.2)

/-- The rules that are read. -/
def RulesFit (r : Response) (url : String) (jar : List Cookie) : List (String × Json) → Prop
  | [] => True
  | e :: rest => conflicting jar e = false ∧ (goesOn r url jar e = true → RulesFit r url jar rest)

/-- What the response of a step comes to: the maps of codes and the rules are mappings where they are used. -/
structure ResponseFits (r : Response) (url : String) (s : RecipeState) : Prop where
  codes : (f.errorValue r).isSome = true → isMappingOr (Dict.get f.step "json_error_code_map") = true
  statuses : f.jsonFailureCode r = .ok "" → (Dict.get f.step "success_statuses").truthy = true →
    statusesFit (Dict.get f.step "success_statuses") = true
  refused : f.jsonFailureCode r = .ok "" → f.acceptsStatus r.statusCode = .ok false →
    isMappingOr (Dict.get f.step "error_status_map") = true
  extract : f.jsonFailureCode r = .ok "" → f.acceptsStatus r.statusCode = .ok true →
    isMappingOr (Dict.get f.step "extract") = true ∧
      ∀ rules, mappingOr (Dict.get f.step "extract") = .ok rules → RulesFit r url (f.o.jar s.moment) rules

/-- An http step, once its url is allowed and its headers are read. -/
structure RequestFits (url origin : String) (headers : Mapping String) (s : RecipeState) : Prop where
  timeout : isInfinite (Dict.get f.step "timeout_seconds") = false
  redirects : ∀ timeout payload response s', clampedInt (Dict.get f.step "timeout_seconds") f.x.timeoutSeconds 1 30 =
    .ok timeout → renderPayload (f.call.context s.vars) f.step = .ok payload →
    f.sendCounted (f.firstRequest url headers timeout payload) "http" origin s = (.ok response, s') →
    response.isRedirect = true → Dict.truthy f.step "follow_redirects" = true →
      isInfinite (Dict.get f.step "max_redirects") = false
  response : ∀ timeout payload response s', clampedInt (Dict.get f.step "timeout_seconds") f.x.timeoutSeconds 1 30 =
    .ok timeout → renderPayload (f.call.context s.vars) f.step = .ok payload →
    f.request url origin headers timeout payload s = (.ok response, s') → f.ResponseFits response url s'

/-- A step in the state it is reached in. -/
structure Fits (s : RecipeState) : Prop where
  set : f.isSet = true → SetFits f.o f.step (f.call.context s.vars)
  mfa : f.isSet = false → f.isMfa = true → MfaFits f.o f.x f.call f.allowed f.step (f.call.context s.vars) s
  http : f.isSet = false → f.isMfa = false → ∀ url origin headers, renderUrl (f.call.context s.vars) f.step = .ok url →
    normalizeOrigin f.o url = .ok origin → origin ≠ "" → origin ∈ f.allowed →
    renderHeaders (f.call.context s.vars) f.step = .ok headers → f.RequestFits url origin headers s

end StepFrame

/-- Every step that is reached. -/
def StepsFit (o : Outside) (x : Executor) (call : LoginCall) (allowed : List String) :
    List (Dict × ℕ) → RecipeState → Prop
  | [], _ => True
  | p :: rest, s => (frameOf o x call allowed p).Fits s ∧
    ∀ s', (frameOf o x call allowed p).run s = (.ok (), s') → StepsFit o x call allowed rest s'

/-- An output, in the state it is reached in: the cookies are rendered to a mapping, and the expiry to no infinite
float. -/
structure OutputFits (output context : Dict) (jar : List Cookie) : Prop where
  cookies : ["bearer", "cookie", "mixed"].contains (lower (strOr (Dict.get output "auth_kind") "mixed")) = true →
    (∃ rendered, render context (valueOr (Dict.get output "headers") (.obj [])) = .ok rendered ∧
      ∃ headers, safeHeaders rendered = .ok headers) → ∀ rendered,
    render context (valueOr (Dict.get output "cookies") (.obj [])) = .ok rendered → ∃ fields, rendered = .obj fields
  expiry : ∀ authKind headers cookies, outputSecrets output context jar = .ok (authKind, headers, cookies) →
    ∀ value, render context (Dict.get output "expires_in_seconds") = .ok value →
    Dict.get output "expires_in_seconds" ≠ .null → Dict.get output "expires_in_seconds" ≠ .str "" → isInfinite value = false

/-- The condition: the origins of the realm and of the adapter can be split, and every step and the output fit where
they are reached. -/
structure RecipeFits (o : Outside) (x : Executor) (call : LoginCall) : Prop where
  realm : ∀ item ∈ call.realmAuthOrigins, ∃ origin, normalizeOrigin o item = .ok origin
  adapter : ∀ item ∈ call.adapterAuthOrigins, ∃ origin, normalizeOrigin o item = .ok origin
  steps : ∀ allowed, checkLogin o call = .ok allowed →
    StepsFit o x call allowed (recipeSteps (fieldsOf call.recipe)).zipIdx {}
  output : ∀ allowed s, checkLogin o call = .ok allowed →
    runSteps o x call allowed (recipeSteps (fieldsOf call.recipe)).zipIdx {} = (.ok (), s) →
    OutputFits (fieldsOf (valueOr (Dict.get (fieldsOf call.recipe) "output") (.obj []))) (call.context s.vars) (o.jar s.moment)

/-! ## Outcomes -/

/-- An outcome raises nothing that escapes, just where `fits` holds. -/
def Tame {α : Type} (fits : Prop) (outcome : Except RecipeError α × RecipeState) : Prop :=
  (∀ a s, outcome = (.ok a, s) → fits) ∧ ∀ e s, outcome = (.error e, s) → (fits ↔ e.escapes = false)

/-- An outcome raises nothing but an `AuthRecipeFailure`. -/
def FailsOnly {α : Type} (outcome : Except RecipeError α × RecipeState) : Prop :=
  ∀ e s, outcome = (.error e, s) → ∃ failure, e = .failure failure

section
variable {α β : Type} {o : Outside} {x : Executor} {fits fits' : Prop} {s : RecipeState}

theorem failsOnly_ok (a : α) : FailsOnly ((.ok a, s) : Except RecipeError α × RecipeState) := fun _ _ same => nomatch same

theorem failsOnly_error_iff {e : RecipeError} :
    FailsOnly ((.error e, s) : Except RecipeError α × RecipeState) ↔ ∃ failure, e = .failure failure := by
  refine ⟨fun fails => fails e s rfl, fun failure e' s' same => ?_⟩
  cases same
  exact failure

theorem tame_ok {a : α} (holds : fits) : Tame fits ((.ok a, s) : Except RecipeError α × RecipeState) := by
  refine ⟨fun _ _ _ => holds, fun e s' same => nomatch same⟩

theorem tame_error {e : RecipeError} (iff : fits ↔ e.escapes = false) :
    Tame fits ((.error e, s) : Except RecipeError α × RecipeState) := by
  refine ⟨fun a s' same => (nomatch same), fun e' s' same => ?_⟩
  cases same
  exact iff

theorem Tame.congr {outcome : Except RecipeError α × RecipeState} (tame : Tame fits outcome) (iff : fits' ↔ fits) :
    Tame fits' outcome :=
  ⟨fun a s run => iff.mpr (tame.1 a s run), fun e s run => iff.trans (tame.2 e s run)⟩

/-- Code whose exceptions are all taken. -/
def Calm (code : Code α) : Prop := ∀ s e s', code s = (.error e, s') → e.escapes = false

theorem Calm.tame {code : Code α} (calm : Calm code) (holds : fits) : Tame fits (code s) :=
  ⟨fun _ _ _ => holds, fun e s' run => iff_of_true holds (calm s e s' run)⟩

variable {rest : α → Code β} {y : Except PyError α}

/-- The code behind is asked for what it needs where it is reached. -/
theorem tame_bind {first : Code α} {A : Prop} {B : α → RecipeState → Prop} (head : Tame A (first s))
    (tail : ∀ a s', first s = (.ok a, s') → Tame (B a s') (rest a s')) :
    Tame (A ∧ ∀ a s', first s = (.ok a, s') → B a s') ((first >>= rest) s) := by
  rcases run : first s with ⟨e | a, s₁⟩
  · show Tame _ (Routine.bind first rest s)
    rw [Routine.bind_error run]
    exact tame_error (Iff.trans ⟨And.left, fun holds => ⟨holds, nofun⟩⟩ (head.2 e s₁ run))
  · show Tame _ (Routine.bind first rest s)
    rw [Routine.bind_ok run]
    refine (tail a s₁ run).congr ⟨fun both => both.2 a s₁ rfl, fun holds => ⟨head.1 a s₁ run, fun b s' same => ?_⟩⟩
    cases same
    exact holds

theorem tame_read {B : α → Prop} (tail : ∀ a, y = .ok a → Tame (B a) (rest a s)) :
    Tame (Plain y ∧ ∀ a, y = .ok a → B a) ((python y >>= rest) s) := by
  cases y with
  | ok a => exact (tail a rfl).congr ⟨fun both => both.2 a rfl, fun holds => ⟨raises_ok a, fun b same =>
      Except.ok.inj same ▸ holds⟩⟩
  | error e => exact tame_error (Iff.trans ⟨And.left, fun plain => ⟨plain, nofun⟩⟩ raises_error_iff)

theorem tame_read_plain {B : α → Prop} (plain : Plain y)
    (tail : ∀ a, y = .ok a → Tame (B a) (rest a s)) : Tame (∀ a, y = .ok a → B a) ((python y >>= rest) s) :=
  (tame_read tail).congr ⟨fun holds => ⟨plain, holds⟩, And.right⟩

theorem calm_ret (a : α) : Calm (.ret a) := fun _ _ _ run => nomatch run

theorem calm_failWith (code stage : String) (count : ℕ) (further : List Dict) :
    Calm (failWith code stage count further : Code α) := by
  intro s e s' run
  cases run
  rfl

theorem calm_modify (g : RecipeState → RecipeState) : Calm (.modify g) := fun _ _ _ run => nomatch run

theorem calm_get : Calm (Routine.get : Code RecipeState) := fun _ _ _ run => nomatch run

theorem calm_bind {first : Code α} (head : Calm first) (tail : ∀ a, Calm (rest a)) :
    Calm (first >>= rest) := by
  intro s e s' run
  change Routine.bind first rest s = _ at run
  rcases first_run : first s with ⟨e' | a, s₁⟩
  · rw [Routine.bind_error first_run] at run
    cases run
    exact head s e s' first_run
  · rw [Routine.bind_ok first_run] at run
    exact tail a s₁ e s' run

theorem calm_ite {c : Prop} [Decidable c] {yes no : Code α} (then_ : Calm yes) (else_ : Calm no) :
    Calm (if c then yes else no) := by
  split
  · exact then_
  · exact else_

theorem calm_python (plain : Plain y) : Calm (python y) := by
  intro s e s' run
  cases y with
  | ok a => nomatch run
  | error e' =>
    cases run
    exact plain e' rfl

theorem SendError.taken (e : SendError) : (RecipeError.send e).escapes = false := by
  cases e <;> rfl

theorem calm_send (r : Request) : Calm (send o r) := by
  intro s e s' run
  cases answer : o.reply s.moment r with
  | response response => nomatch (send_response answer).symm.trans run
  | raised raised =>
    cases (send_raised answer).symm.trans run
    exact raised.taken

end

/-! ## Lookups -/

theorem jsonPathFrom_looks (parts : List String) : Looks (jsonPathFrom value parts) := by
  induction parts generalizing value with
  | nil => exact raises_ok _
  | cons part rest ih =>
    unfold jsonPathFrom
    refine raises_ite (ih _) ?_
    split
    · refine raises_ite ?_ (raises_error rfl)
      split
      · exact ih _
      · exact raises_error rfl
    · split
      · exact ih _
      · exact raises_error rfl
    · exact raises_error rfl

theorem document_looks (r : Response) : Looks r.document := by
  unfold Response.document
  split
  · exact raises_ok _
  · exact raises_error rfl

theorem headerNamed_looks (r : Response) (name : String) : Looks (headerNamed r name) := by
  unfold headerNamed
  split
  · exact raises_ok _
  · exact raises_error rfl

theorem jsonMatchValue_looks (rule : Dict) : Looks (jsonMatchValue value rule) := by
  unfold jsonMatchValue
  dsimp only
  refine raises_ite (jsonPathFrom_looks _ _) (raises_ite (raises_bind (raises_ok value) fun rows => ?_)
    (raises_bind (jsonPathFrom_looks _ _) fun rows => ?_))
  all_goals
    split
    · split
      · exact raises_ok _
      · exact raises_error rfl
    · exact raises_error rfl

/-! ## Http steps -/

namespace StepFrame
variable (f : StepFrame)

theorem calm_fail {α : Type} (code : String) : Calm (f.fail code : Code α) :=
  calm_bind calm_get fun _ => calm_failWith _ _ _ _

theorem calm_sendCounted (r : Request) (kind origin : String) : Calm (f.sendCounted r kind origin) := by
  refine calm_bind (calm_modify _) fun _ => calm_bind calm_get fun s => calm_ite (calm_failWith _ _ _ _) ?_
  exact calm_bind (calm_send r) fun response => calm_bind (calm_modify _) fun _ => calm_ret _

variable (r : Response) (url : String)

theorem calm_followRedirects (headers : Mapping String) (timeout : Int) (left : ℕ) (response : Response) :
    Calm (f.followRedirects url headers timeout left response) := by
  induction left generalizing response with
  | zero =>
    unfold followRedirects
    exact calm_ite (f.calm_fail _) (calm_ret _)
  | succ left ih =>
    unfold followRedirects
    refine calm_ite ?_ (calm_ret _)
    refine calm_bind (calm_python (joinUrl_plain _ _ _)) fun target => ?_
    refine calm_bind (calm_python (normalizeOrigin_plain _ _)) fun origin => calm_ite (f.calm_fail _) ?_
    exact calm_bind (f.calm_sendCounted _ _ _) fun next => ih next

theorem request_tame (url origin : String) (headers : Mapping String) (timeout : Int) (payload : Payload) (s : RecipeState) :
    Tame (∀ response s', f.sendCounted (f.firstRequest url headers timeout payload) "http" origin s = (.ok response, s') →
        response.isRedirect = true → Dict.truthy f.step "follow_redirects" = true →
          isInfinite (Dict.get f.step "max_redirects") = false)
      (f.request url origin headers timeout payload s) := by
  have sent : Tame True (f.sendCounted (f.firstRequest url headers timeout payload) "http" origin s) :=
    (f.calm_sendCounted _ _ _).tame trivial
  refine (tame_bind sent fun response s' _ => ?_).congr ⟨fun holds => ⟨trivial, holds⟩, And.right⟩
  by_cases follows : (response.isRedirect && Dict.truthy f.step "follow_redirects") = true
  · rw [if_pos follows]
    obtain ⟨redirect, follow⟩ := Bool.and_eq_true_iff.mp follows
    refine (tame_read (B := fun _ => True) fun most _ => (f.calm_followRedirects _ _ _ _ _).tame trivial).congr ?_
    rw [maxRedirects, plain_map_iff, clampedInt_plain_iff]
    exact ⟨fun finite => ⟨finite redirect follow, fun _ _ => trivial⟩, fun both _ _ => both.1⟩
  · rw [if_neg follows]
    refine (calm_ret _).tame fun redirect follow => absurd ?_ follows
    rw [redirect, follow]
    rfl

theorem jsonFailureCode_plain_iff : Plain (f.jsonFailureCode r) ↔
    ((f.errorValue r).isSome = true → isMappingOr (Dict.get f.step "json_error_code_map") = true) := by
  unfold jsonFailureCode errorValue
  dsimp only
  split
  · exact iff_of_true (raises_ok _) nofun
  · cases read : r.document.bind (jsonPath · (Dict.get f.step "json_error_path").strOrEmpty) with
    | error e => exact iff_of_true (raises_ok _) nofun
    | ok value =>
      dsimp only
      cases truthy : value.truthy with
      | false => exact iff_of_true (raises_ok _) nofun
      | true =>
        rw [if_neg (by decide), if_pos rfl, plain_bind_iff, mappingOr_plain_iff]
        refine ⟨fun both _ => both.1, fun mapping => ⟨mapping rfl, fun fields _ => ?_⟩⟩
        exact raises_ok _

theorem acceptsStatus_plain_iff (status : Int) : Plain (f.acceptsStatus status) ↔
    ((Dict.get f.step "success_statuses").truthy = true → statusesFit (Dict.get f.step "success_statuses") = true) := by
  unfold acceptsStatus
  dsimp only
  split
  · next listed => rw [plain_map_iff, statusesOf_plain_iff]; exact ⟨fun fits _ => fits, fun fits => fits listed⟩
  · next unlisted => exact iff_of_true (raises_ok _) fun listed => absurd listed unlisted

def CheckFits : Prop :=
  ((f.errorValue r).isSome = true → isMappingOr (Dict.get f.step "json_error_code_map") = true) ∧
    (f.jsonFailureCode r = .ok "" →
      ((Dict.get f.step "success_statuses").truthy = true → statusesFit (Dict.get f.step "success_statuses") = true) ∧
      (f.acceptsStatus r.statusCode = .ok false → isMappingOr (Dict.get f.step "error_status_map") = true))

theorem checkResponse_tame (s : RecipeState) : Tame (f.CheckFits r) (f.checkResponse r s) := by
  unfold checkResponse CheckFits
  refine (tame_read (B := fun code => code = "" → ((Dict.get f.step "success_statuses").truthy = true →
    statusesFit (Dict.get f.step "success_statuses") = true) ∧ (f.acceptsStatus r.statusCode = .ok false →
      isMappingOr (Dict.get f.step "error_status_map") = true)) fun code _ => ?_).congr ?_
  · by_cases failed : (code != "") = true
    · rw [if_pos failed]
      refine (f.calm_fail _).tame fun none_ => ?_
      rw [none_] at failed
      nomatch failed
    · rw [if_neg failed]
      have none_ : code = "" := by simpa using failed
      refine (tame_read (B := fun accepted => accepted = false → isMappingOr (Dict.get f.step "error_status_map") = true)
        fun accepted _ => ?_).congr ?_
      · cases accepted with
        | true => exact (calm_ret _).tame nofun
        | false =>
          refine (tame_read (B := fun _ => True) fun _ _ => (f.calm_fail _).tame trivial).congr ?_
          rw [statusFailureCode_plain_iff]
          exact ⟨fun mapping => ⟨mapping rfl, fun _ _ => trivial⟩, fun both _ => both.1⟩
      · rw [acceptsStatus_plain_iff]
        refine ⟨fun holds => ⟨(holds none_).1, fun accepted read refused => (holds none_).2 (refused ▸ read)⟩, ?_⟩
        exact fun both _ => ⟨both.1, fun read => both.2 false read rfl⟩
  · rw [jsonFailureCode_plain_iff]
    refine and_congr_right fun _ => ⟨fun holds code read none_ => holds (none_ ▸ read), fun holds read => holds "" read rfl⟩

/-- The status of a response that passed. -/
theorem checkResponse_ok {r : Response} {s s' : RecipeState} (run : f.checkResponse r s = (.ok (), s')) :
    s' = s ∧ f.jsonFailureCode r = .ok "" ∧ f.acceptsStatus r.statusCode = .ok true := by
  unfold checkResponse at run
  cases failure : f.jsonFailureCode r with
  | error e =>
    rw [failure] at run
    nomatch run
  | ok code =>
    rw [failure] at run
    simp only [Routine.bind_eq, python_ok] at run
    by_cases failed : (code != "") = true
    · rw [if_pos failed] at run
      nomatch run
    · rw [if_neg failed] at run
      have none_ : code = "" := by simpa using failed
      cases accepts : f.acceptsStatus r.statusCode with
      | error e =>
        rw [accepts] at run
        nomatch run
      | ok accepted =>
        rw [accepts] at run
        cases accepted with
        | true =>
          cases run
          exact ⟨rfl, by rw [none_], rfl⟩
        | false =>
          simp only [python_ok] at run
          cases refused : statusFailureCode r.statusCode f.step with
          | error e =>
            rw [refused] at run
            nomatch run
          | ok code =>
            rw [refused] at run
            nomatch run

/-- A rule raises beyond what is looked up just where it reads one of two cookies. -/
theorem extractValue_looks_iff (jar : List Cookie) (e : String × Json) :
    Looks (extractValue r url jar e.1 (ruleOf e.2)) ↔ conflicting jar e = false := by
  unfold extractValue conflicting
  dsimp only
  generalize strOr (Dict.get (ruleOf e.2) "source") "json" = source
  by_cases cookie : (source == "cookie") = true
  · rw [beq_iff_eq.mp cookie, if_neg (by decide), if_neg (by decide), if_pos (by decide), beq_self_eq_true, Bool.true_and,
      ← cookieNamed_looks_iff]
    exact raises_bind_iff.trans ⟨And.left, fun looks => ⟨looks, fun _ _ => raises_ok _⟩⟩
  · rw [Bool.eq_false_iff.mpr cookie, Bool.false_and]
    refine iff_of_true ?_ rfl
    refine raises_ite (raises_bind (document_looks r) fun _ => jsonPathFrom_looks _ _) ?_
    refine raises_ite (raises_bind (headerNamed_looks _ _) fun _ => raises_ok _) ?_
    rw [if_neg Bool.false_ne_true]
    exact raises_ite (raises_ok _) (raises_ite (raises_ok _) (raises_error rfl))

theorem extract_tame (rules : List (String × Json)) (s : RecipeState) :
    Tame (RulesFit r url (f.o.jar s.moment) rules) (Routine.forEach (f.extractOne r url) rules s) := by
  induction rules generalizing s with
  | nil => exact tame_ok trivial
  | cons e rest ih =>
    have looks := extractValue_looks_iff r url (f.o.jar s.moment) e
    show Tame _ (Routine.bind (f.extractOne r url e) (fun _ => Routine.forEach (f.extractOne r url) rest) s)
    have turn : f.extractOne r url e s = (match extractValue r url (f.o.jar s.moment) e.1 (ruleOf e.2) with
        | .ok value => setVariable e.1 value
        | .error error =>
          if !isLookupError error then .raise (.python error)
          else if isRequired (ruleOf e.2) then
            f.fail (strOr (Dict.get (ruleOf e.2) "failure_code") "TOKEN_EXTRACTION_FAILED")
          else return ()) s := rfl
    unfold RulesFit goesOn
    cases value : extractValue r url (f.o.jar s.moment) e.1 (ruleOf e.2) with
    | ok value' =>
      rw [value] at turn looks
      rw [Routine.bind_ok turn]
      have one : conflicting (f.o.jar s.moment) e = false := looks.mp (raises_ok value')
      refine (ih { s with vars := Dict.set s.vars e.1 value' }).congr ?_
      exact ⟨fun both => both.2 rfl, fun fits => ⟨one, fun _ => fits⟩⟩
    | error error =>
      rw [value] at turn looks
      dsimp only at turn
      cases lookup : isLookupError error with
      | false =>
        rw [lookup] at turn
        rw [Routine.bind_error turn]
        refine tame_error (iff_of_false (fun both => ?_) fun taken => ?_)
        · nomatch lookup.symm.trans (looks.mpr both.1 error rfl)
        · simp [RecipeError.escapes, handled_of_not_lookup lookup] at taken
      | true =>
        have one : conflicting (f.o.jar s.moment) e = false := looks.mp (raises_error lookup)
        rw [lookup] at turn
        cases required : isRequired (ruleOf e.2) with
        | true =>
          rw [required] at turn
          rw [Routine.bind_error turn]
          exact tame_error (iff_of_true ⟨one, nofun⟩ rfl)
        | false =>
          rw [required] at turn
          rw [Routine.bind_ok turn]
          exact (ih s).congr ⟨fun both => both.2 rfl, fun fits => ⟨one, fun _ => fits⟩⟩

theorem checkResponse_passes {r : Response} {s : RecipeState} (failure : f.jsonFailureCode r = .ok "")
    (accepts : f.acceptsStatus r.statusCode = .ok true) : f.checkResponse r s = (.ok (), s) := by
  unfold checkResponse
  rw [failure, accepts]
  rfl

/-- What follows the response of a step. -/
def onResponse : Code Unit := do
  f.checkResponse r
  let rules ← python (mappingOr (Dict.get f.step "extract"))
  Routine.forEach (f.extractOne r url) rules

theorem onResponse_tame (s : RecipeState) :
    Tame (f.ResponseFits r url s) (f.onResponse r url s) := by
  refine (tame_bind (B := fun _ s' => isMappingOr (Dict.get f.step "extract") = true ∧
    ∀ rules, mappingOr (Dict.get f.step "extract") = .ok rules → RulesFit r url (f.o.jar s'.moment) rules)
    (f.checkResponse_tame r s) fun _ s' _ => ?_).congr ?_
  · refine (tame_read fun rules _ => f.extract_tame r url rules s').congr ?_
    rw [mappingOr_plain_iff]
  · constructor
    · rintro ⟨codes, statuses, refused, extract⟩
      refine ⟨⟨codes, fun none_ => ⟨statuses none_, refused none_⟩⟩, fun _ s' run => ?_⟩
      obtain ⟨rfl, failure, accepts⟩ := f.checkResponse_ok run
      exact extract failure accepts
    · rintro ⟨⟨codes, rest⟩, extract⟩
      exact ⟨codes, fun none_ => (rest none_).1, fun none_ => (rest none_).2, fun failure accepts =>
        extract () s (f.checkResponse_passes failure accepts)⟩

/-- An http step, once its url is allowed. -/
theorem runHttp_tame (s : RecipeState) :
    Tame (∀ url origin headers, renderUrl (f.call.context s.vars) f.step = .ok url →
      normalizeOrigin f.o url = .ok origin → origin ≠ "" → origin ∈ f.allowed →
      renderHeaders (f.call.context s.vars) f.step = .ok headers → f.RequestFits url origin headers s) (f.runHttp s) := by
  refine (tame_read_plain (renderUrl_plain _ _) fun url _ => tame_read_plain (normalizeOrigin_plain _ _) fun origin _ =>
    (?_ : Tame (origin ≠ "" → origin ∈ f.allowed → ∀ headers, renderHeaders (f.call.context s.vars) f.step = .ok headers →
      f.RequestFits url origin headers s) _)).congr ?_
  · by_cases blocked : (origin == "" || !f.allowed.contains origin) = true
    · rw [if_pos blocked]
      refine (calm_failWith _ _ _ _).tame fun some_ mem => ?_
      simp [some_, mem] at blocked
    · rw [if_neg blocked]
      refine (tame_read_plain (renderHeaders_plain _ _) fun headers _ => (?_ : Tame (f.RequestFits url origin headers s)
        _)).congr ?_
      · refine (tame_read (B := fun timeout => ∀ payload, renderPayload (f.call.context s.vars) f.step = .ok payload →
          (∀ response s', f.sendCounted (f.firstRequest url headers timeout payload) "http" origin s = (.ok response, s') →
            response.isRedirect = true → Dict.truthy f.step "follow_redirects" = true →
              isInfinite (Dict.get f.step "max_redirects") = false) ∧
          ∀ response s', f.request url origin headers timeout payload s = (.ok response, s') →
            f.ResponseFits response url s') fun timeout _ => ?_).congr ?_
        · refine tame_read_plain (renderPayload_plain _ _) fun payload _ => ?_
          exact tame_bind (f.request_tame url origin headers timeout payload s) fun response s' _ =>
            f.onResponse_tame response url s'
        · rw [clampedInt_plain_iff]
          constructor
          · rintro ⟨timeout, redirects, response⟩
            exact ⟨timeout, fun seconds read payload rendered => ⟨fun r s' => redirects seconds payload r s' read rendered,
              fun r s' => response seconds payload r s' read rendered⟩⟩
          · rintro ⟨timeout, rest⟩
            exact ⟨timeout, fun seconds payload r s' read rendered => (rest seconds read payload rendered).1 r s',
              fun seconds payload r s' read rendered => (rest seconds read payload rendered).2 r s'⟩
      · have open_ : origin ≠ "" ∧ origin ∈ f.allowed := by simpa using blocked
        exact ⟨fun fits => fits open_.1 open_.2, fun fits _ _ => fits⟩
  · exact ⟨fun fits url read origin found some_ mem headers rendered => fits url origin headers read found some_ mem rendered,
      fun fits url origin headers read found some_ mem rendered => fits url read origin found some_ mem headers rendered⟩

end StepFrame

/-! ## Setting a value -/

theorem loadRsaPublicKey_plain_iff (o : Outside) (value : Json) : Plain (loadRsaPublicKey o value) ↔ keyFits o value = true := by
  unfold loadRsaPublicKey keyFits
  dsimp only
  generalize stripped value.strOrEmpty = encoded
  cases refused : encoded == "" || decide (32768 < encoded.utf8ByteSize) with
  | true =>
    rw [if_pos rfl]
    exact iff_of_true (raises_error rfl) rfl
  | false =>
    rw [if_neg Bool.false_ne_true, Bool.false_or]
    cases o.loadKey (containsText encoded "BEGIN CERTIFICATE") encoded with
    | unsupported => exact iff_of_false (fun plain => nomatch plain _ rfl) (by decide)
    | invalid => exact iff_of_true (raises_error rfl) rfl
    | notRsa => exact iff_of_true (raises_error rfl) rfl
    | rsa bits => exact iff_of_true (raises_ite (raises_error rfl) (raises_ok _)) rfl

theorem rsaEncrypt_plain_iff (o : Outside) (step context : Dict) : Plain (rsaEncrypt o step context) ↔
    ((∃ value, render context ((Dict.get? step "value").getD (.str "")) = .ok value) → ∀ key,
      render context (valueOr (Dict.get step "public_key") (valueOr (Dict.get step "key") (.str ""))) = .ok key →
        keyFits o key = true) := by
  unfold rsaEncrypt
  rw [plain_bind_iff]
  refine Iff.trans ⟨fun both found key read => ?_, fun fits => ⟨render_plain _ _, fun value read => ?_⟩⟩ Iff.rfl
  · obtain ⟨value, rendered⟩ := found
    have rest := (plain_bind_iff.mp (both.2 value rendered)).2 key read
    exact (loadRsaPublicKey_plain_iff o key).mp (plain_bind_iff.mp rest).1
  · refine plain_bind_iff.mpr ⟨render_plain _ _, fun key rendered => plain_bind_iff.mpr
      ⟨(loadRsaPublicKey_plain_iff o key).mpr (fits ⟨value, read⟩ key rendered), fun encoded _ => ?_⟩⟩
    split
    · dsimp only
      split
      · split
        · exact raises_error rfl
        · exact raises_ok _
      · exact raises_error rfl
    · exact raises_error rfl

theorem iterate_plain : Plain (iterate value) := by
  cases value with
  | arr | obj | str => exact raises_ok _
  | null | bool | int | float => exact raises_error rfl

theorem setValue_plain_iff (o : Outside) (moment : ℕ) (step context : Dict) :
    Plain (setValue o moment step context) ↔ SetFits o step context := by
  unfold setValue SetFits
  dsimp only
  generalize strOr (Dict.get step "operation") "literal" = operation
  by_cases rsa : operation = "rsa_encrypt"
  · subst rsa
    rw [if_neg (by decide), if_neg (by decide), if_neg (by decide), plain_bind_iff]
    constructor
    · rintro ⟨-, rest⟩ - ⟨value, rendered⟩
      have encrypted := rest value rendered
      rw [if_neg (by decide), if_neg (by decide), if_neg (by decide), if_neg (by decide), if_pos (by decide)] at encrypted
      exact (rsaEncrypt_plain_iff o step context).mp encrypted ⟨value, rendered⟩
    · intro fits
      refine ⟨render_plain _ _, fun value rendered => ?_⟩
      rw [if_neg (by decide), if_neg (by decide), if_neg (by decide), if_neg (by decide), if_pos (by decide)]
      exact (rsaEncrypt_plain_iff o step context).mpr (fits rfl)
  · refine iff_of_true (raises_ite (render_plain _ _) (raises_ite (raises_ite (raises_ok _) (raises_ite (raises_ok _)
      (raises_error rfl))) (raises_ite (raises_ok _) (raises_bind (render_plain _ _) fun rendered => ?_)))) (absurd · rsa)
    refine raises_ite (raises_bind (render_plain _ _) fun values => raises_bind (iterate_plain _) fun _ => raises_ok _)
      (raises_ite (raises_ok _) (raises_ite (raises_ok _) (raises_ite (raises_ok _) ?_)))
    rw [if_neg (by simpa using rsa)]
    exact raises_error rfl

/-! ## Waiting for a code -/

theorem receivePushed_tame (o : Outside) (stage : String) (step context : Dict) (count : ℕ) (s : RecipeState) :
    Tame ((∃ id, normalizeReceiverId (Dict.get step "receiver_id").strOrEmpty = .ok id) →
      (∃ value, render context (valueOr (Dict.get step "correlation") (.str "")) = .ok value) →
        isInfinite (Dict.get step "timeout_seconds") = false) (receivePushed o stage step context count s) := by
  unfold receivePushed
  cases receiver : normalizeReceiverId (Dict.get step "receiver_id").strOrEmpty with
  | error message => exact tame_error (iff_of_true nofun rfl)
  | ok receiverId =>
    cases correlation : render context (valueOr (Dict.get step "correlation") (.str "")) with
    | error e =>
      refine tame_error (iff_of_true nofun ?_)
      exact render_plain context _ e correlation
    | ok value =>
      simp only [Routine.bind_eq, Except.mapError, python_ok]
      rw [← Routine.bind_eq]
      refine (tame_read (B := fun _ => True) fun timeout _ => ?_).congr ?_
      · simp only [Routine.bind_get]
        cases o.waitForCode s.moment receiverId (firstChars value.pyStr 256) timeout with
        | ok code => exact tame_ok trivial
        | error e =>
          cases e with
          | timedOut | receiverError | valueError => exact tame_error (iff_of_true trivial rfl)
      · rw [clampedInt_plain_iff]
        exact ⟨fun fits => ⟨fits ⟨receiverId, rfl⟩ ⟨value, rfl⟩, fun _ _ => trivial⟩, fun both _ _ => both.1⟩

theorem preparePoll_plain_iff (x : Executor) (call : LoginCall) (stage : String) (step context : Dict) (url origin : String)
    {headers : Mapping String} (rendered : renderHeaders context step = .ok headers) :
    Plain (preparePoll x call stage step context url origin) ↔ NumbersFit x step := by
  unfold preparePoll NumbersFit
  rw [rendered]
  change Plain (clampedInt (Dict.get step "timeout_seconds") x.timeoutSeconds 1 30 >>= _) ↔ _
  rw [plain_bind_iff, clampedInt_plain_iff]
  refine and_congr_right fun _ => forall_congr' fun timeout => forall_congr' fun _ => ?_
  rw [plain_bind_iff, clampedInt_plain_iff]
  refine and_congr_right fun _ => forall_congr' fun attempts => forall_congr' fun _ => ?_
  rw [plain_bind_iff, checkFloat_plain_iff]
  have rule (accepted notReady : List Int) (attempts timeout : Int) : Plain (do
      let .obj rule := valueOr (Dict.get step "extract") (.obj [("source", .str "json"), ("path", .str "code")])
        | throw (.valueError "MFA receiver extract rule is invalid")
      return ({ stage := stage, step := step, method := methodOf step, url := url, origin := origin, headers := headers
                timeout := timeout, maxAttempts := attempts.toNat, accepted := accepted, notReady := notReady
                rule := rule, tlsVerify := call.tlsVerify } : Poll)) := by
    split
    · exact raises_ok _
    · exact raises_error rfl
  refine and_congr_right fun _ => ⟨fun rest read => ?_, fun rest _ read => ?_⟩
  · obtain ⟨accepted, later⟩ := plain_bind_iff.mp (rest () read)
    refine ⟨(statusesOf_plain_iff _).mp accepted, fun statuses listed => ?_⟩
    exact (statusesOf_plain_iff _).mp (plain_bind_iff.mp (later statuses listed)).1
  · obtain ⟨accepted, later⟩ := rest read
    refine plain_bind_iff.mpr ⟨(statusesOf_plain_iff _).mpr accepted, fun statuses listed => ?_⟩
    exact plain_bind_iff.mpr ⟨(statusesOf_plain_iff _).mpr (later statuses listed), fun notReady _ => rule _ _ _ _⟩

/-- Reading an answer to a poll raises beyond what is looked up just where it reads one of two cookies. -/
theorem Poll.read_looks_iff (p : Poll) (r : Response) (jar : List Cookie) : Looks (p.read r jar) ↔
    (strOr (Dict.get p.rule "source") "json" == "cookie" &&
      conflicts jar (strOr (Dict.get p.rule "name") "mfa_code")) = false := by
  have checked (value : Json) : Looks ((validateMfaCode value).mapError fun _ =>
      PyError.valueError "MFA verification code is invalid") := by
    cases validateMfaCode value with
    | ok code => exact raises_ok _
    | error message => exact raises_error rfl
  unfold Poll.read
  dsimp only
  generalize strOr (Dict.get p.rule "source") "json" = source
  by_cases cookie : (source == "cookie") = true
  · rw [beq_iff_eq.mp cookie, if_neg (by decide), if_neg (by decide), if_pos (by decide), beq_self_eq_true, Bool.true_and,
      ← cookieNamed_looks_iff]
    exact raises_bind_iff.trans ⟨fun both => raises_map_iff.mp both.1, fun looks =>
      ⟨raises_map_iff.mpr looks, fun value _ => checked value⟩⟩
  · rw [Bool.eq_false_iff.mpr cookie, Bool.false_and]
    refine iff_of_true ?_ rfl
    refine raises_ite (raises_bind (document_looks r) fun _ => raises_bind (jsonMatchValue_looks _ _) checked) ?_
    refine raises_ite (raises_bind (raises_map_iff.mpr (headerNamed_looks _ _)) checked) ?_
    rw [if_neg Bool.false_ne_true]
    exact raises_ite (raises_bind (raises_ok _) checked) (raises_bind (raises_error rfl) checked)

theorem Poll.turn_unraised_iff (p : Poll) (r : Response) (jar : List Cookie) :
    (∀ e, p.turn r jar ≠ .raised e) ↔ p.conflicting r jar = false := by
  unfold Poll.conflicting Poll.turn
  cases accepted : p.accepted.contains r.statusCode with
  | false =>
    refine iff_of_true (fun e turn => ?_) rfl
    split at turn
    · nomatch turn
    · nomatch turn
  | true =>
    rw [Bool.true_and, ← p.read_looks_iff r jar, if_neg (by simp), if_pos rfl]
    constructor
    · intro unraised e read
      refine Bool.eq_true_of_not_eq_false fun other => unraised e ?_
      rw [read]
      exact if_neg (by rw [other]; decide)
    · intro looks e turn
      cases read : p.read r jar with
      | ok code =>
        rw [read] at turn
        nomatch turn
      | error e' =>
        rw [read] at turn
        dsimp only at turn
        rw [if_pos (looks e' read)] at turn
        nomatch turn

theorem Poll.run_tame (o : Outside) (x : Executor) (p : Poll) (payload : Except PyError Payload) (plain : Plain payload)
    (left count : ℕ) (s : RecipeState) : Tame (p.Fits o x payload left count s) (p.run o x payload left count s) := by
  induction left generalizing count s with
  | zero => exact tame_error (iff_of_true trivial rfl)
  | succ left ih =>
    unfold Poll.run Poll.Fits
    by_cases full : x.maxRequests ≤ count
    · rw [if_pos full]
      exact tame_error (iff_of_true (.inl full) rfl)
    rw [if_neg full]
    simp only [full, false_or]
    cases payload with
    | error e => exact tame_error (iff_of_true trivial (plain e rfl))
    | ok payload' =>
      simp only [Routine.bind_eq, python_ok]
      cases answer : o.reply s.moment (p.request payload') with
      | raised e =>
        rw [Routine.bind_error (send_raised answer)]
        exact tame_error (iff_of_true trivial e.taken)
      | response r =>
        rw [Routine.bind_ok (send_response answer)]
        simp only [addDiagnostic, Routine.bind_modify, Routine.bind_get]
        let row := pollRow p.stage p.method p.origin p.url r.statusCode (p.maxAttempts - left) p.tlsVerify
        let after : RecipeState :=
          { s with sent := s.sent ++ [p.request payload'], diagnostics := s.diagnostics ++ [row] }
        have single := p.turn_unraised_iff r (o.jar after.moment)
        cases turn : p.turn r (o.jar after.moment) with
        | raised e =>
          refine tame_error (iff_of_false (fun both => ?_) fun taken => ?_)
          · exact single.mpr both.1 e turn
          · simp [RecipeError.escapes, handled_of_not_lookup (Poll.turn_raised turn)] at taken
        | code c =>
          have taken := single.mp fun e same => by cases turn.symm.trans same
          exact tame_ok ⟨taken, trivial⟩
        | again =>
          have taken := single.mp fun e same => by cases turn.symm.trans same
          exact (ih (count + 1) after).congr ⟨And.right, fun fits => ⟨taken, fits⟩⟩
        | refused =>
          have taken := single.mp fun e same => by cases turn.symm.trans same
          refine (tame_read (B := fun _ => True) fun code _ => (calm_failWith code p.stage (count + 1) []).tame trivial).congr ?_
          rw [statusFailureCode_plain_iff]
          exact ⟨fun both => ⟨both.2, fun _ _ => trivial⟩, fun both => ⟨taken, both.1⟩⟩

theorem receiveMfa_tame (o : Outside) (x : Executor) (call : LoginCall) (allowed : List String) (step context : Dict)
    (s : RecipeState) : Tame (MfaFits o x call allowed step context s)
      (receiveMfa o x call allowed step context s.requestCount s) := by
  unfold receiveMfa
  cases push : isPush step with
  | true =>
    rw [if_pos rfl]
    refine (receivePushed_tame o _ step context s.requestCount s).congr ⟨fun fits => fits.pushed push, fun fits => ?_⟩
    exact ⟨fun _ => fits, fun pull => nomatch push.symm.trans pull⟩
  | false =>
    rw [if_neg Bool.false_ne_true]
    let stage := firstChars (strOr (Dict.get step "id") "mfa_receive") 80
    refine (tame_read_plain (renderUrl_plain _ _) fun url _ => tame_read_plain (normalizeOrigin_plain _ _) fun origin _ =>
      (?_ : Tame (origin ≠ "" → origin ∈ allowed → ∀ headers, renderHeaders context step = .ok headers → NumbersFit x step ∧
        ∀ poll, preparePoll x call stage step context url origin = .ok poll →
          poll.Fits o x (renderPayload context step) poll.maxAttempts s.requestCount s) _)).congr ?_
    · by_cases blocked : (origin == "" || !allowed.contains origin) = true
      · rw [if_pos blocked]
        refine (calm_failWith _ _ _ _).tame fun some_ mem => ?_
        simp [some_, mem] at blocked
      · rw [if_neg blocked]
        have open_ : origin ≠ "" ∧ origin ∈ allowed := by simpa using blocked
        refine (tame_read fun poll _ => poll.run_tame o x (renderPayload context step) (renderPayload_plain _ _)
          poll.maxAttempts s.requestCount s).congr ?_
        cases rendered : renderHeaders context step with
        | ok headers =>
          rw [preparePoll_plain_iff x call stage step context url origin rendered]
          exact ⟨fun fits => fits open_.1 open_.2 headers rfl, fun fits _ _ _ _ => fits⟩
        | error e =>
          have unread : preparePoll x call stage step context url origin = .error e := by
            unfold preparePoll
            rw [rendered]
            rfl
          rw [unread]
          refine iff_of_true (fun _ _ _ same => nomatch same) ⟨?_, nofun⟩
          exact raises_error (renderHeaders_plain _ _ e rendered)
    · exact ⟨fun fits url read origin found => fits.polled push url origin read found, fun fits =>
        ⟨fun pushed => (nomatch push.symm.trans pushed), fun _ url origin read found => fits url read origin found⟩⟩

/-! ## Steps -/

namespace StepFrame
variable (f : StepFrame)

theorem runSet_tame (s : RecipeState) : Tame (SetFits f.o f.step (f.call.context s.vars)) (f.runSet s) := by
  refine (tame_read (B := fun _ => True) fun value _ => ?_).congr ?_
  · exact tame_ok trivial
  · rw [setValue_plain_iff]
    exact ⟨fun fits => ⟨fits, fun _ _ => trivial⟩, And.left⟩

theorem runMfa_tame (s : RecipeState) :
    Tame (MfaFits f.o f.x f.call f.allowed f.step (f.call.context s.vars) s) (f.runMfa s) := by
  refine (tame_bind (B := fun _ _ => True) (receiveMfa_tame _ _ _ _ _ _ s) fun p s' _ => ?_).congr ?_
  · exact tame_ok trivial
  · exact ⟨fun fits => ⟨fits, fun _ _ _ => trivial⟩, And.left⟩

theorem runBody_tame (s : RecipeState) : Tame (f.Fits s) (f.runBody s) := by
  unfold runBody
  cases set : f.isSet with
  | true =>
    refine (f.runSet_tame s).congr ⟨fun fits => fits.set set, fun fits => ⟨fun _ => fits, ?_, ?_⟩⟩
    · exact fun other => nomatch set.symm.trans other
    · exact fun other => nomatch set.symm.trans other
  | false =>
    cases mfa : f.isMfa with
    | true =>
      refine (f.runMfa_tame s).congr ⟨fun fits => fits.mfa set mfa, fun fits => ⟨?_, fun _ _ => fits, ?_⟩⟩
      · exact fun other => nomatch set.symm.trans other
      · exact fun _ other => nomatch mfa.symm.trans other
    | false =>
      refine (f.runHttp_tame s).congr ⟨fun fits => fits.http set mfa, fun fits => ⟨?_, ?_, fun _ _ => fits⟩⟩
      · exact fun other => nomatch set.symm.trans other
      · exact fun _ other => nomatch mfa.symm.trans other

theorem run_of_ok {s s' : RecipeState} (body : f.runBody s = (.ok (), s')) : f.run s = (.ok (), s') := by
  rw [run, Routine.handle, body]

theorem run_of_error {s s' : RecipeState} {e : RecipeError} (body : f.runBody s = (.error e, s')) :
    (∃ failure, f.run s = (.error (.failure failure), s') ∧ e.escapes = false) ∨
      f.run s = (.error e, s') ∧ (e.escapes = false ↔ ∃ failure, e = .failure failure) := by
  have handled : f.run s = f.onError e s' := by rw [run, Routine.handle, body]
  unfold onError at handled
  cases taken : e.handled with
  | some code =>
    rw [taken] at handled
    refine .inl ⟨_, handled, ?_⟩
    cases e with
    | failure => nomatch taken
    | send e => rw [escapes_send, taken, Option.isNone_some]
    | python e => rw [escapes_python, taken, Option.isNone_some]
  | none =>
    rw [taken] at handled
    refine .inr ⟨handled, ?_⟩
    cases e with
    | failure failure => exact iff_of_true rfl ⟨failure, rfl⟩
    | send e =>
      rw [escapes_send, taken, Option.isNone_none]
      exact iff_of_false (by decide) nofun
    | python e =>
      rw [escapes_python, taken, Option.isNone_none]
      exact iff_of_false (by decide) nofun

/-- A step raises a failure only, just where it fits. -/
theorem run_fits (s : RecipeState) : FailsOnly (f.run s) ↔ f.Fits s := by
  have tame := f.runBody_tame s
  rcases body : f.runBody s with ⟨e | a, s₁⟩
  · rcases f.run_of_error body with ⟨failure, run, taken⟩ | ⟨run, iff⟩
    · rw [run]
      exact iff_of_true (failsOnly_error_iff.mpr ⟨failure, rfl⟩) ((tame.2 e s₁ body).mpr taken)
    · rw [run, tame.2 e s₁ body, iff]
      exact failsOnly_error_iff
  · rw [f.run_of_ok body]
    exact iff_of_true (failsOnly_ok _) (tame.1 a s₁ body)

end StepFrame

/-- The steps raise failures only, just where every step that is reached fits. -/
theorem runSteps_fits (o : Outside) (x : Executor) (call : LoginCall) (allowed : List String) (steps : List (Dict × ℕ))
    (s : RecipeState) : FailsOnly (runSteps o x call allowed steps s) ↔ StepsFit o x call allowed steps s := by
  induction steps generalizing s with
  | nil => exact iff_of_true (failsOnly_ok ()) trivial
  | cons p rest ih =>
    let f := frameOf o x call allowed p
    have unfolded : runSteps o x call allowed (p :: rest) s =
      Routine.bind f.run (fun _ => runSteps o x call allowed rest) s := rfl
    rw [unfolded]
    unfold StepsFit
    rw [← f.run_fits s]
    rcases run : f.run s with ⟨e | a, s₁⟩
    · rw [Routine.bind_error run]
      exact ⟨fun fails => ⟨fails, fun s' same => nomatch same⟩, And.left⟩
    · rw [Routine.bind_ok run, ih s₁]
      refine ⟨fun fits => ⟨failsOnly_ok _, fun s' same => ?_⟩, fun both => both.2 s₁ rfl⟩
      cases same
      exact fits

/-! ## The output -/

theorem outputCookies_plain_iff (output context : Dict) (authKind : String) (jar : List Cookie) :
    Plain (outputCookies output context authKind jar) ↔
      ∀ rendered, render context (valueOr (Dict.get output "cookies") (.obj [])) = .ok rendered →
        ∃ fields, rendered = .obj fields := by
  unfold outputCookies
  rw [plain_bind_iff]
  refine ⟨fun both rendered read => ?_, fun mapping => ⟨render_plain _ _, fun rendered read => ?_⟩⟩
  · have plain := both.2 rendered read
    cases rendered with
    | obj fields => exact ⟨fields, rfl⟩
    | null | bool | int | float | str | arr => nomatch plain _ rfl
  · obtain ⟨fields, rfl⟩ := mapping rendered read
    exact raises_ok _

theorem outputSecrets_plain_iff (output context : Dict) (jar : List Cookie) : Plain (outputSecrets output context jar) ↔
    (["bearer", "cookie", "mixed"].contains (lower (strOr (Dict.get output "auth_kind") "mixed")) = true →
      (∃ rendered, render context (valueOr (Dict.get output "headers") (.obj [])) = .ok rendered ∧
        ∃ headers, safeHeaders rendered = .ok headers) → ∀ rendered,
      render context (valueOr (Dict.get output "cookies") (.obj [])) = .ok rendered → ∃ fields, rendered = .obj fields) := by
  unfold outputSecrets
  dsimp only
  generalize lower (strOr (Dict.get output "auth_kind") "mixed") = authKind
  cases known : ["bearer", "cookie", "mixed"].contains authKind with
  | false =>
    rw [if_pos (by rfl)]
    exact iff_of_true (raises_error rfl) nofun
  | true =>
    rw [if_neg (by simp), plain_bind_iff]
    constructor
    · rintro ⟨-, rest⟩ - ⟨rendered, read, headers, safe⟩
      have later := (plain_bind_iff.mp (rest rendered read)).2 headers safe
      exact (outputCookies_plain_iff output context authKind jar).mp (plain_bind_iff.mp later).1
    · intro fits
      refine ⟨render_plain _ _, fun rendered read => plain_bind_iff.mpr ⟨safeHeaders_plain _, fun headers safe => ?_⟩⟩
      refine plain_bind_iff.mpr ⟨(outputCookies_plain_iff output context authKind jar).mpr
        (fits rfl ⟨rendered, read, headers, safe⟩), fun cookies _ => ?_⟩
      exact raises_ite (raises_error rfl) (raises_ite (raises_error rfl) (raises_ite (raises_error rfl) (raises_ok _)))

theorem outputExpiry_plain_iff (output context : Dict) (now : Timestamp) : Plain (outputExpiry output context now) ↔
    ∀ value, render context (Dict.get output "expires_in_seconds") = .ok value →
      Dict.get output "expires_in_seconds" ≠ .null → Dict.get output "expires_in_seconds" ≠ .str "" →
        isInfinite value = false := by
  unfold outputExpiry
  generalize Dict.get output "expires_in_seconds" = field
  split
  · exact iff_of_true (raises_ok _) fun _ _ some_ => absurd rfl some_
  · exact iff_of_true (raises_ok _) fun _ _ _ some_ => absurd rfl some_
  · next some_ some_text =>
    rw [plain_bind_iff]
    constructor
    · rintro ⟨-, rest⟩ value rendered - -
      exact (asInt_plain_iff value).mp (plain_bind_iff.mp (rest value rendered)).1
    · intro finite
      refine ⟨render_plain _ _, fun value rendered => plain_bind_iff.mpr ⟨?_, fun _ _ => raises_ok _⟩⟩
      exact (asInt_plain_iff value).mpr (finite value rendered some_ some_text)

theorem buildOutput_plain_iff (output context : Dict) (jar : List Cookie) (now : Timestamp) :
    Plain (buildOutput output context jar now) ↔ OutputFits output context jar := by
  unfold buildOutput
  rw [plain_bind_iff, outputSecrets_plain_iff]
  constructor
  · rintro ⟨cookies, rest⟩
    refine ⟨cookies, fun authKind headers cookies' read => ?_⟩
    exact (outputExpiry_plain_iff output context now).mp (plain_bind_iff.mp (rest (authKind, headers, cookies') read)).1
  · rintro ⟨cookies, expiry⟩
    refine ⟨cookies, fun p read => plain_bind_iff.mpr ⟨?_, fun _ _ => raises_ok _⟩⟩
    exact (outputExpiry_plain_iff output context now).mpr (expiry p.1 p.2.1 p.2.2 read)

/-- The end of `execute` raises a failure only, just where the output fits. -/
theorem finish_fits (o : Outside) (call : LoginCall) (s : RecipeState) :
    FailsOnly (finish o call s) ↔
      OutputFits (fieldsOf (valueOr (Dict.get (fieldsOf call.recipe) "output") (.obj []))) (call.context s.vars)
        (o.jar s.moment) := by
  rw [← buildOutput_plain_iff _ _ _ (o.utcnow s.moment)]
  unfold finish
  simp only [Routine.bind_eq, Routine.bind_get]
  cases buildOutput (fieldsOf (valueOr (Dict.get (fieldsOf call.recipe) "output") (.obj []))) (call.context s.vars)
      (o.jar s.moment) (o.utcnow s.moment) with
  | ok built => exact iff_of_true (failsOnly_ok _) (raises_ok built)
  | error e =>
    cases e with
    | keyError | typeError | valueError =>
      exact iff_of_true (failsOnly_error_iff.mpr ⟨_, rfl⟩) (raises_error rfl)
    | executionAdapterError | requestBlocked | accountContextError | other =>
      refine iff_of_false (fun fails => ?_) fun plain => (nomatch plain _ rfl)
      obtain ⟨failure, same⟩ := failsOnly_error_iff.mp fails
      nomatch same

/-! ## Executions -/

theorem originsOf_ok_iff (o : Outside) (origins : List String) :
    (∃ found, originsOf o origins = .ok found) ↔ ∀ item ∈ origins, ∃ origin, normalizeOrigin o item = .ok origin := by
  have each : (∃ found, origins.mapM (normalizeOrigin o) = .ok found) ↔
      ∀ item ∈ origins, ∃ origin, normalizeOrigin o item = .ok origin := by
    induction origins with
    | nil => exact iff_of_true ⟨[], rfl⟩ nofun
    | cons item rest ih =>
      rw [List.forall_mem_cons, ← ih, List.mapM_cons]
      simp only [bind_eq_ok]
      constructor
      · rintro ⟨found, origin, read, origins, others, -⟩
        exact ⟨⟨origin, read⟩, origins, others⟩
      · rintro ⟨⟨origin, read⟩, origins, others⟩
        exact ⟨origin :: origins, origin, read, origins, others, rfl⟩
  rw [← each]
  constructor
  · rintro ⟨found, read⟩
    obtain ⟨origins', listed, -⟩ := map_eq_ok.mp read
    exact ⟨origins', listed⟩
  · rintro ⟨found, read⟩
    exact ⟨_, map_eq_ok.mpr ⟨found, read, rfl⟩⟩

/-- The checks in front of the steps of a recipe that is accepted. -/
theorem checkLogin_fits {o : Outside} {call : LoginCall} (accepted : validateRecipe call.recipe = .ok ()) :
    (∀ e, checkLogin o call = .error e → ∃ failure, e = .failure failure) ↔
      (∀ item ∈ call.realmAuthOrigins, ∃ origin, normalizeOrigin o item = .ok origin) ∧
        ∀ item ∈ call.adapterAuthOrigins, ∃ origin, normalizeOrigin o item = .ok origin := by
  rw [← originsOf_ok_iff, ← originsOf_ok_iff]
  unfold checkLogin
  rw [accepted]
  dsimp only
  cases originsOf o call.realmAuthOrigins with
  | error e =>
    refine iff_of_false (fun fails => ?_) fun both => (nomatch both.1)
    obtain ⟨failure, same⟩ := fails _ rfl
    nomatch same
  | ok realm =>
    cases originsOf o call.adapterAuthOrigins with
    | error e =>
      refine iff_of_false (fun fails => ?_) fun both => (nomatch both.2)
      obtain ⟨failure, same⟩ := fails _ rfl
      nomatch same
    | ok adapter =>
      refine iff_of_true (fun e refused => ?_) ⟨⟨realm, rfl⟩, adapter, rfl⟩
      dsimp only at refused
      split at refused
      · cases refused
        exact ⟨_, rfl⟩
      · nomatch refused

/-- A recipe that is accepted is executed to a result or to a failure, just where it fits. -/
theorem execute_fits (o : Outside) (x : Executor) (call : LoginCall) (accepted : validateRecipe call.recipe = .ok ()) :
    FailsOnly (execute o x call {}) ↔ RecipeFits o x call := by
  have checks := checkLogin_fits (o := o) accepted
  unfold execute
  cases checked : checkLogin o call with
  | error e =>
    rw [checked] at checks
    have same : FailsOnly ((.error e, {}) : Except RecipeError RecipeExecutionResult × RecipeState) ↔
        ∀ e', (.error e : Except RecipeError (List String)) = .error e' → ∃ failure, e' = .failure failure :=
      failsOnly_error_iff.trans ⟨fun failure e' is => Except.error.inj is ▸ failure, fun fails => fails e rfl⟩
    refine same.trans (checks.trans ⟨fun both => ⟨both.1, both.2, ?_, ?_⟩, fun fits => ⟨fits.realm, fits.adapter⟩⟩)
    · exact fun allowed is => nomatch checked.symm.trans is
    · exact fun allowed s is => nomatch checked.symm.trans is
  | ok allowed =>
    rw [checked] at checks
    obtain ⟨realm, adapter⟩ := checks.mp nofun
    simp only [Routine.bind_eq, Routine.bind_ofExcept_ok]
    have steps := runSteps_fits o x call allowed (recipeSteps (fieldsOf call.recipe)).zipIdx {}
    rcases run : runSteps o x call allowed (recipeSteps (fieldsOf call.recipe)).zipIdx {} with ⟨e | a, s⟩
    · rw [Routine.bind_error run]
      rw [run, failsOnly_error_iff] at steps
      refine failsOnly_error_iff.trans (steps.trans ⟨fun fits => ⟨realm, adapter, ?_, ?_⟩, fun fits => fits.steps _ checked⟩)
      · exact fun allowed' is => Except.ok.inj (checked.symm.trans is) ▸ fits
      · intro allowed' s' is run'
        cases Except.ok.inj (checked.symm.trans is)
        nomatch run.symm.trans run'
    · rw [Routine.bind_ok run, finish_fits]
      rw [run] at steps
      refine ⟨fun output => ⟨realm, adapter, ?_, ?_⟩, fun fits => fits.output allowed s checked run⟩
      · exact fun allowed' is => Except.ok.inj (checked.symm.trans is) ▸ steps.mp (failsOnly_ok a)
      · intro allowed' s' is run'
        cases Except.ok.inj (checked.symm.trans is)
        cases run.symm.trans run'
        exact output

end ApiManger.Recipe
