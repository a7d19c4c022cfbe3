import Mathlib.Data.List.Sort
import ApiManger.Python.Mapping
import ApiManger.Python.Text
import ApiManger.Python.Url
import ApiManger.Store.Documents

/-!
# Account contexts

`AccountContextRef` names the credentials of one account; an `AccountContext` holds
them for a short time. The constructor refuses what could not be sent as a header,
so every context carries the proof that its names may be sent.
-/

namespace ApiManger.Account
open Python Store Collection

def contextInvalid : PyError := .accountContextError "AccountContextInvalid"
def contextUnavailable : PyError := .accountContextError "AccountContextUnavailable"
def contextExpired : PyError := .accountContextError "AccountContextExpired"
def contextMismatch : PyError := .accountContextError "AccountContextMismatch"
def contextHostNotAllowed : PyError := .accountContextError "AccountContextHostNotAllowed"

/-! ## Hosts -/

def splitValues (value : Json) : Except PyError (List String) := do
  let values ← match value with
    | .null => pure []
    | .str s => pure (if s == "" then [] else split s ',')
    | .arr items => pure (items.map Json.pyStr)
    | _ => throw contextInvalid
  let cleaned := (values.filter fun item => stripped item != "").map fun item =>
    rstripChar (lower (stripped item)) '.'
  return cleaned.dedup.insertionSort (· ≤ ·)

/-- What a pattern says of the hosts, without its star. -/
def hostCandidate (pattern : String) : String :=
  if startsWith pattern "*." then (pattern.drop 2).toString else pattern

def validateHostPatterns (patterns : Json) : Except PyError (List String) := do
  let normalized ← splitValues patterns
  if normalized.isEmpty then throw contextInvalid
  if normalized.any fun pattern => pattern == "*" || hostCandidate pattern == "" ||
      containsText (hostCandidate pattern) "/" then throw contextInvalid
  return normalized

/-- The host a pattern is compared with: without scheme, port and closing dots. -/
def normalizedHost (host : String) : String :=
  let raw := stripped host
  let parsed := hostname (if containsText raw "://" then raw else "//" ++ raw)
  rstripChar (lower (stripped (parsed.getD raw))) '.'

/-- Whether one pattern covers the host. -/
def patternMatches (host pattern : String) : Bool :=
  if startsWith pattern "*." then
    endsWith host (pattern.drop 1).toString && host != (pattern.drop 2).toString
  else host == pattern

def hostMatches (host : String) (patterns : List String) : Bool :=
  normalizedHost host == "" || patterns.any (patternMatches (normalizedHost host))

/-! ## Credentials -/

/-- The characters of `_HEADER_NAME`. -/
def isHeaderChar (c : Char) : Bool := c.isAlphanum || "!#$%&*+.^_|~-".toList.contains c || c.toNat == 39 || c.toNat == 96

def dangerousProviderHeaders : List String :=
  ["accept-encoding", "connection", "content-length", "content-type", "host", "transfer-encoding", "upgrade"]

/-- Whether a credential may be sent under the name. -/
def nameAllowed (headers : Bool) (name : String) : Bool :=
  name != "" && name.toList.all isHeaderChar && !(headers && dangerousProviderHeaders.contains (lower name))

/-- Whether a value stays on its line. -/
def valueAllowed (value : String) : Bool := !(value.toList.contains '\r' || value.toList.contains '\n')

/-- One credential as it is sent. -/
def secretEntry (headers : Bool) (raw : String × Json) : Except PyError (String × String) :=
  if nameAllowed headers (stripped raw.1) && valueAllowed raw.2.pyStr then
    .ok (stripped raw.1, raw.2.pyStr)
  else .error contextInvalid

def validateSecretMapping (headers : Bool) (values : Dict) : Except PyError (Mapping String) :=
  (values.mapM (secretEntry headers)).map Mapping.ofItems

/-- The items of a mapping, as values that may be validated again. -/
def asValues (d : Mapping String) : Dict := d.items.map fun e => (e.1, .str e.2)

/-- Every name and value of the mapping may be sent. -/
def Sendable (headers : Bool) (d : Mapping String) : Prop :=
  ∀ e ∈ d.items, nameAllowed headers e.1 = true ∧ valueAllowed e.2 = true

theorem isHeaderChar_solid {c : Char} (h : isHeaderChar c = true) : isSpace c = false := by
  have code : 33 ≤ c.toNat ∧ c.toNat ≤ 126 := by
    simp only [isHeaderChar, Bool.or_eq_true, List.contains_eq_mem, decide_eq_true_eq, beq_iff_eq] at h
    rcases h with ((alnum | listed) | quote) | tick
    · unfold Char.isAlphanum Char.isAlpha Char.isUpper Char.isLower Char.isDigit at alnum
      simp only [Bool.or_eq_true, Bool.and_eq_true, decide_eq_true_eq, ge_iff_le, UInt32.le_iff_toNat_le] at alnum
      have value : c.val.toNat = c.toNat := rfl
      have bounds : 'A'.val.toNat = 65 ∧ 'Z'.val.toNat = 90 ∧ 'a'.val.toNat = 97 ∧ 'z'.val.toNat = 122 ∧
          '0'.val.toNat = 48 ∧ '9'.val.toNat = 57 := by decide
      omega
    · have all : ∀ c ∈ "!#$%&*+.^_|~-".toList, 33 ≤ c.toNat ∧ c.toNat ≤ 126 := by simp
      exact all c listed
    · omega
    · omega
  unfold isSpace
  simp only [Bool.or_eq_false_iff, Bool.and_eq_false_iff, decide_eq_false_iff_not, beq_eq_false_iff_ne, ne_eq]
  omega

theorem nameAllowed_stripped {headers : Bool} {name : String} (h : nameAllowed headers name = true) :
    stripped name = name := by
  simp only [nameAllowed, Bool.and_eq_true, List.all_eq_true] at h
  exact stripped_eq_self fun c mem => isHeaderChar_solid (h.1.2 c mem)

theorem validateSecretMapping_sendable {headers : Bool} {values : Dict} {d : Mapping String}
    (h : validateSecretMapping headers values = .ok d) : Sendable headers d := by
  obtain ⟨entries, checked, rfl⟩ := map_eq_ok.mp h
  have each : ∀ (values : Dict) (entries : List (String × String)),
      values.mapM (secretEntry headers) = .ok entries →
      ∀ e ∈ entries, nameAllowed headers e.1 = true ∧ valueAllowed e.2 = true := by
    intro values
    induction values with
    | nil =>
      intro entries checked e mem
      cases checked
      cases mem
    | cons raw rest ih =>
      intro entries checked e mem
      simp only [List.mapM_cons, bind_eq_ok] at checked
      obtain ⟨first, here, others, later, eq⟩ := checked
      cases eq
      rcases List.mem_cons.mp mem with rfl | mem
      · unfold secretEntry at here
        split at here
        · next allowed =>
          cases here
          exact Bool.and_eq_true_iff.mp allowed
        · cases here
      · exact ih others later e mem
  exact fun e mem => each values entries checked e (Mapping.mem_ofItems mem)

/-- What may be sent is left as it is. -/
theorem validateSecretMapping_asValues {headers : Bool} {d : Mapping String} (h : Sendable headers d) :
    validateSecretMapping headers (asValues d) = .ok d := by
  have each : ∀ items : List (String × String),
      (∀ e ∈ items, nameAllowed headers e.1 = true ∧ valueAllowed e.2 = true) →
      (items.map fun e => (e.1, Json.str e.2)).mapM (secretEntry headers) = .ok items := by
    intro items allowed
    induction items with
    | nil => rfl
    | cons e rest ih =>
      obtain ⟨name, value⟩ := allowed e (.head _)
      have here : secretEntry headers (e.1, .str e.2) = .ok e := by
        unfold secretEntry
        rw [nameAllowed_stripped name, if_pos (by simp [name, Json.pyStr, value])]
        rfl
      rw [List.map_cons, List.mapM_cons, here, ih fun e mem => allowed e (.tail _ mem)]
      rfl
  rw [validateSecretMapping, asValues, each d.items h]
  exact congrArg Except.ok (by
    have items := Mapping.ofItems_items d.distinct
    cases d
    cases same : Mapping.ofItems _
    simp_all)

/-! ## References and contexts -/

structure AccountContextRef where
  projectId : String
  envId : String
  accountId : String
  providerId : String
  contextRef : String := ""

/-- What `cache_key` answers. -/
structure CacheKey where
  providerId : String
  projectId : String
  envId : String
  accountId : String
  contextRef : String
  deriving DecidableEq

namespace AccountContextRef

def validate (r : AccountContextRef) : Except PyError Unit :=
  if r.projectId == "" || r.envId == "" || r.accountId == "" || r.providerId == "" then
    .error contextInvalid
  else .ok ()

def effectiveContextRef (r : AccountContextRef) : String := if r.contextRef == "" then r.accountId else r.contextRef

/-- `cache_key`, of a reference that was validated. -/
def key (r : AccountContextRef) : CacheKey :=
  ⟨r.providerId, r.projectId, r.envId, r.accountId, r.effectiveContextRef⟩

def cacheKey (r : AccountContextRef) : Except PyError CacheKey := (r.validate).map fun _ => r.key

end AccountContextRef

structure AccountContext where
  projectId : String
  envId : String
  accountId : String
  providerId : String
  contextRef : String
  headers : Mapping String
  cookies : Mapping String
  authKind : String
  expiresAt : Option Timestamp
  issuedAt : Option Timestamp
  allowedHosts : List String
  metadata : Dict
  sendableHeaders : Sendable true headers
  sendableCookies : Sendable false cookies
  credentials : headers.items ≠ [] ∨ cookies.items ≠ []

/-- The arguments of `AccountContext(...)`, before `__post_init__`; the two dates were parsed. -/
structure ContextFields where
  projectId : String
  envId : String
  accountId : String
  providerId : String
  contextRef : String
  headers : Dict
  cookies : Dict
  authKind : String
  expiresAt : Option Timestamp
  issuedAt : Option Timestamp
  allowedHosts : Json
  metadata : Dict

/-- `__post_init__`. -/
def ContextFields.build (f : ContextFields) : Except PyError AccountContext :=
  match hh : validateSecretMapping true f.headers, hc : validateSecretMapping false f.cookies,
      validateHostPatterns f.allowedHosts with
  | .ok headers, .ok cookies, .ok hosts =>
    if some_ : headers.items ≠ [] ∨ cookies.items ≠ [] then .ok {
      projectId := f.projectId, envId := f.envId, accountId := f.accountId, providerId := f.providerId
      contextRef := f.contextRef, headers := headers, cookies := cookies, authKind := f.authKind
      expiresAt := f.expiresAt, issuedAt := f.issuedAt, allowedHosts := hosts, metadata := f.metadata
      sendableHeaders := validateSecretMapping_sendable hh
      sendableCookies := validateSecretMapping_sendable hc
      credentials := some_ }
    else .error contextInvalid
  | .error e, _, _ | _, .error e, _ | _, _, .error e => .error e

/-- What a context that was built holds. -/
theorem ContextFields.build_ok {f : ContextFields} {c : AccountContext} (h : f.build = .ok c) :
    validateSecretMapping true f.headers = .ok c.headers ∧
      validateSecretMapping false f.cookies = .ok c.cookies ∧
      validateHostPatterns f.allowedHosts = .ok c.allowedHosts ∧
      c.projectId = f.projectId ∧ c.envId = f.envId ∧ c.accountId = f.accountId ∧
      c.providerId = f.providerId ∧ c.contextRef = f.contextRef ∧ c.expiresAt = f.expiresAt ∧
      c.metadata = f.metadata := by
  unfold build at h
  split at h
  · next headers cookies hosts hh hc found =>
    split at h
    · cases h
      exact ⟨hh, hc, found, rfl, rfl, rfl, rfl, rfl, rfl, rfl⟩
    · cases h
  all_goals cases h

namespace AccountContext

/-- The identity that must be the one of the reference. -/
def identity (c : AccountContext) : CacheKey :=
  ⟨c.providerId, c.projectId, c.envId, c.accountId, if c.contextRef == "" then c.accountId else c.contextRef⟩

/-- `AccountContext.validate`, at the time `now`. -/
def validate (c : AccountContext) (r : AccountContextRef) (host : String) (minValiditySeconds : Int)
    (now : Timestamp) : Except PyError AccountContext := do
  r.validate
  if c.identity ≠ r.key then throw contextMismatch
  else if c.expiresAt.any fun expiry => decide (expiry ≤ now + minValiditySeconds) then throw contextExpired
  else if host != "" && !hostMatches host c.allowedHosts then throw contextHostNotAllowed
  else return c

/-- A context that passes is the one that is returned. -/
theorem validate_ok {c d : AccountContext} {r : AccountContextRef} {host : String} {min : Int}
    {now : Timestamp} (h : c.validate r host min now = .ok d) : d = c ∧ r.validate = .ok () ∧
      c.identity = r.key := by
  unfold validate at h
  obtain ⟨_, valid, h⟩ := bind_eq_ok.mp h
  split at h
  · cases h
  · next same =>
    split at h
    · cases h
    · split at h
      · cases h
      · exact ⟨(Except.ok.inj h).symm, valid, not_not.mp same⟩

end AccountContext

end ApiManger.Account
