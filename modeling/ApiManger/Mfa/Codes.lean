import ApiManger.Python.Mapping
import ApiManger.Python.Text

/-!
# Verification codes

What a receiver takes as its id, a correlation and a code, and how codes are kept in
Redis. Times are in milliseconds.
-/

namespace ApiManger.Mfa
open Python

/-- How the calls of a receiver fail: `MfaReceiverError`, `MfaReceiverTimeout`, `ValueError`. -/
inductive MfaError where
  | receiverError (message : String)
  | timedOut (message : String)
  | valueError (message : String)
  deriving DecidableEq

/-- `MFA receiver timed out`. -/
def receiverTimedOut : MfaError := .timedOut "MFA receiver timed out"

def maxMfaWaitSeconds : Int := 300

def maxMfaCodeLength : ℕ := 256

def maxPendingTransactions : ℕ := 100

/-- The later characters of `_RECEIVER_ID`. -/
def isReceiverChar (c : Char) : Bool := c.isAlphanum || c == '.' || c == '_' || c == '-'

/-- `_RECEIVER_ID.fullmatch`. -/
def isReceiverId : List Char → Bool
  | [] => false
  | c :: rest => c.isAlphanum && rest.all isReceiverChar && decide (rest.length ≤ 79)

def normalizeReceiverId (value : String) : Except MfaError String :=
  if isReceiverId (stripped value).toList then .ok (stripped value)
  else .error (.valueError "MFA receiver id is invalid")

/-- `str(correlation or "").strip()[:256]`. -/
def normalizeCorrelation (correlation : String) : String := String.ofList ((stripped correlation).toList.take 256)

/-- `max(1, min(int(timeout_seconds), MAX_MFA_WAIT_SECONDS))`, in milliseconds. -/
def waitMillis (timeoutSeconds : Int) : ℕ := 1000 * (max 1 (min timeoutSeconds maxMfaWaitSeconds)).toNat

/-! ## Codes -/

/-- `str(value or "").strip()`. -/
def codeText (value : Json) : String := stripped (if value.truthy then value.pyStr else "")

/-- What a code may look like. -/
def codeAllowed (code : String) : Bool :=
  code != "" && decide (code.length ≤ maxMfaCodeLength) && !code.toList.any fun c => c.toNat < 32 || c.toNat == 127

def validateMfaCode (value : Json) : Except MfaError String :=
  if codeAllowed (codeText value) then .ok (codeText value)
  else .error (.valueError "MFA verification code is invalid")

/-- A code that was validated passes again, unchanged. -/
theorem validateMfaCode_again {value : Json} {code : String} (h : validateMfaCode value = .ok code) :
    validateMfaCode (.str code) = .ok code := by
  unfold validateMfaCode at h
  split at h
  · next allowed =>
    cases h
    have nonempty : (codeText value != "") = true := by
      simp only [codeAllowed, Bool.and_eq_true] at allowed
      exact allowed.1.1
    have text : codeText (.str (codeText value)) = codeText value := by
      have truthy : (Json.str (codeText value)).truthy = true := nonempty
      unfold codeText at truthy ⊢
      rw [if_pos truthy]
      exact stripped_stripped _
    rw [validateMfaCode, text, if_pos allowed]
  · cases h

/-! ## Codes in Redis -/

/-- The cipher of the receiver: AES-GCM under its key, with the transaction id as associated data and the
result in base64. What was encrypted for a transaction can be read for it again. -/
structure Cipher where
  encrypt : (nonce : ℕ) → (transactionId code : String) → String
  decrypt : (transactionId payload : String) → Option String
  roundTrip : ∀ nonce transactionId code, decrypt transactionId (encrypt nonce transactionId code) = some code
  nonempty : ∀ nonce transactionId code, encrypt nonce transactionId code ≠ ""

def encryptCode (cipher : Cipher) (nonce : ℕ) (transactionId code : String) : Except MfaError String :=
  (validateMfaCode (.str code)).map (cipher.encrypt nonce transactionId)

def decryptCode (cipher : Cipher) (transactionId payload : String) : Except MfaError String :=
  match cipher.decrypt transactionId payload with
  | none => .error (.receiverError "MFA receiver payload could not be decrypted")
  | some code => validateMfaCode (.str code)

/-- What is encrypted is a payload from which the code is read. -/
theorem encryptCode_ok {cipher : Cipher} {nonce : ℕ} {transactionId payload : String} {value : Json} {code : String}
    (valid : validateMfaCode value = .ok code) (h : encryptCode cipher nonce transactionId code = .ok payload) :
    payload ≠ "" ∧ decryptCode cipher transactionId payload = .ok code := by
  rw [encryptCode, validateMfaCode_again valid] at h
  cases h
  refine ⟨cipher.nonempty nonce transactionId code, ?_⟩
  rw [decryptCode, cipher.roundTrip]
  exact validateMfaCode_again valid

/-! ## Exactly once -/

/-- How a wait call ended. -/
abbrev Outcome := Except MfaError String

/-- An accepted code is consumed once: by the wait call that owns its transaction, and by no other. -/
structure ConsumedOnce (accepted : List (String × String)) (outcome : String → Option Outcome) : Prop where
  once : (accepted.map Prod.fst).Nodup
  delivered : ∀ t c, (t, c) ∈ accepted → ∀ o, outcome t = some o → o = .ok c
  own : ∀ t c, outcome t = some (.ok c) → (t, c) ∈ accepted

end ApiManger.Mfa
