import Mathlib.Data.List.Forall2
import ApiManger.Python.Text
import ApiManger.Python.Url

/-!
# Sanitized values

`sanitize_sample_value` of the endpoint evidence: what stands under the name of a credential is
left out, at any depth, and texts that are documents or forms are read as such. Documents that
differ in nothing else are sanitized alike.
-/

namespace ApiManger.Evidence
open Python

/-- `SENSITIVE_KEY_PARTS`, with underscores. -/
def sensitiveKeyParts : List String :=
  ["authorization", "proxy_authorization", "cookie", "set_cookie", "token", "access_token", "refresh_token",
    "id_token", "jwt", "password", "passwd", "pwd", "secret", "client_secret", "api_key", "apikey", "x_api_key",
    "session", "sessionid", "csrf", "xsrf"]

def redacted : String := "*** 已脱敏 ***"

def maxText : ℕ := 3000

def maxItems : ℕ := 80

@[irreducible] def sensitiveKey (key : String) : Bool :=
  let value := replaceChar (lower (stripped key)) '-' '_'
  value != "" && sensitiveKeyParts.any fun part => value == part || endsWith value ("_" ++ part)

/-! ## Inline secrets -/

def isWordChar (c : Char) : Bool := c.isAlphanum || c == '_'

def isTokenChar (c : Char) : Bool := c.isAlphanum || "._~+/=-".toList.contains c

/-- What is left after a bearer token, where the text starts with one. -/
def afterBearer (text : List Char) : Option (List Char) :=
  let rest := text.drop 6
  let token := rest.dropWhile isSpace
  if (text.take 6).map Char.toLower = "bearer".toList ∧ rest.head?.any isSpace ∧ token.head?.any isTokenChar then
    some (token.dropWhile isTokenChar)
  else none

/-- The text with its bearer tokens left out; `fuel` is its length. -/
def redactBearer : ℕ → Bool → List Char → List Char
  | 0, _, text => text
  | _ + 1, _, [] => []
  | fuel + 1, inWord, c :: rest => match if inWord then none else afterBearer (c :: rest) with
    | some after => "Bearer ***".toList ++ redactBearer fuel false after
    | none => c :: redactBearer fuel (isWordChar c) rest

def redactInlineSecrets (text : String) : String :=
  let value := String.ofList (redactBearer text.length false text.toList)
  firstChars value maxText ++ if maxText < value.length then "…" else ""

/-! ## Values -/

/-- `json.loads`: white space around a document does not matter, and a document that is no leaf
starts with its bracket. -/
structure Reader where
  loads : String → Option Json
  strips : ∀ text value, loads text = some value → loads (stripped text) = some value
  opens : ∀ text fields, loads text = some (.obj fields) → (stripped text).toList.head? = some '{'
  opensList : ∀ text items, loads text = some (.arr items) → (stripped text).toList.head? = some '['

/-- The fields of a form that is read as one. -/
def formPairs (text : String) : Option (List (String × String)) :=
  let pairs := parseQsl text.toList
  if containsText text "=" && (containsText text "&" || sensitiveKey (String.ofList (text.toList.takeWhile (· != '=')))) &&
      pairs.any fun e => sensitiveKey e.1 then some pairs else none

/-- `sanitize_sample_value`, with so many levels left below the value. -/
def sanitizeSampleValue (r : Reader) : ℕ → String → Json → Json
  | levels, key, value =>
    if sensitiveKey key then .str redacted
    else match levels with
      | 0 => .str "…"
      | levels + 1 => match value with
        | .obj fields =>
          let shown : Dict := (fields.take maxItems).map fun e => (e.1, sanitizeSampleValue r levels e.1 e.2)
          .obj (if maxItems < fields.length then Dict.set shown "…" (.str "其余字段已省略") else shown)
        | .arr items =>
          let shown := (items.take maxItems).map fun item => sanitizeSampleValue r levels "" item
          .arr (if maxItems < items.length then shown ++ [.str "其余数据已省略"] else shown)
        | .str text =>
          let trimmed := stripped text
          let parsed := if trimmed.toList.head? = some '{' ∨ trimmed.toList.head? = some '[' then r.loads trimmed else none
          match parsed with
          | some document => sanitizeSampleValue r levels key document
          | none => match formPairs trimmed with
            | some pairs => .obj ((pairs.take maxItems).foldl (fun shown e =>
                Dict.set shown e.1 (sanitizeSampleValue r levels e.1 (.str e.2))) [])
            | none => .str (redactInlineSecrets text)
        | value => value

def sanitized (r : Reader) (value : Json) : Json := sanitizeSampleValue r 8 "" value

/-! ## Concealed values -/

mutual

/-- The values differ at most in texts, of the same length each. -/
inductive Masked : Json → Json → Prop
  | leaf (value : Json) : Masked value value
  | text {s s' : String} (same : s.length = s'.length) : Masked (.str s) (.str s')
  | arr {items items' : List Json} (each : MaskedItems items items') : Masked (.arr items) (.arr items')
  | obj {fields fields' : List (String × Json)} (each : MaskedFields fields fields') : Masked (.obj fields) (.obj fields')

inductive MaskedItems : List Json → List Json → Prop
  | nil : MaskedItems [] []
  | cons {value value' : Json} {rest rest' : List Json} (head : Masked value value') (tail : MaskedItems rest rest') :
      MaskedItems (value :: rest) (value' :: rest')

inductive MaskedFields : List (String × Json) → List (String × Json) → Prop
  | nil : MaskedFields [] []
  | cons {key : String} {value value' : Json} {rest rest' : List (String × Json)} (head : Masked value value')
      (tail : MaskedFields rest rest') : MaskedFields ((key, value) :: rest) ((key, value') :: rest')

end

mutual

/-- The documents differ at most in texts under the names of credentials, of the same length each. -/
inductive Concealed : Json → Json → Prop
  | leaf (value : Json) : Concealed value value
  | arr {items items' : List Json} (each : ConcealedItems items items') : Concealed (.arr items) (.arr items')
  | obj {fields fields' : List (String × Json)} (each : ConcealedFields fields fields') :
      Concealed (.obj fields) (.obj fields')

inductive ConcealedItems : List Json → List Json → Prop
  | nil : ConcealedItems [] []
  | cons {value value' : Json} {rest rest' : List Json} (head : Concealed value value')
      (tail : ConcealedItems rest rest') : ConcealedItems (value :: rest) (value' :: rest')

inductive ConcealedFields : List (String × Json) → List (String × Json) → Prop
  | nil : ConcealedFields [] []
  | cons {key : String} {value value' : Json} {rest rest' : List (String × Json)} (head : Concealed value value')
      (tail : ConcealedFields rest rest') : ConcealedFields ((key, value) :: rest) ((key, value') :: rest')
  | secret {key : String} {value value' : Json} {rest rest' : List (String × Json)} (sensitive : sensitiveKey key = true)
      (head : Masked value value') (tail : ConcealedFields rest rest') :
      ConcealedFields ((key, value) :: rest) ((key, value') :: rest')

end

section
variable {r : Reader}

theorem sanitizeSampleValue_sensitive {key : String} (sensitive : sensitiveKey key = true) (levels : ℕ) (value : Json) :
    sanitizeSampleValue r levels key value = .str redacted := by
  unfold sanitizeSampleValue
  rw [if_pos sensitive]

theorem ConcealedFields.length_eq {fields fields' : List (String × Json)} (concealed : ConcealedFields fields fields') :
    fields.length = fields'.length := by
  induction fields generalizing fields' with
  | nil =>
    cases concealed
    rfl
  | cons e rest ih =>
    cases concealed with
    | cons head tail => rw [List.length_cons, List.length_cons, ih tail]
    | secret sensitive head tail => rw [List.length_cons, List.length_cons, ih tail]

theorem ConcealedItems.length_eq {items items' : List Json} (concealed : ConcealedItems items items') :
    items.length = items'.length := by
  induction items generalizing items' with
  | nil =>
    cases concealed
    rfl
  | cons value rest ih =>
    cases concealed with
    | cons head tail => rw [List.length_cons, List.length_cons, ih tail]

/-- Documents that differ in credentials are sanitized alike. -/
theorem Concealed.sanitized_eq (levels : ℕ) (key : String) {value value' : Json} (concealed : Concealed value value') :
    sanitizeSampleValue r levels key value = sanitizeSampleValue r levels key value' := by
  induction levels generalizing key value value' with
  | zero =>
    unfold sanitizeSampleValue
    split <;> rfl
  | succ levels ih =>
    have items : ∀ {items items' : List Json} (n : ℕ), ConcealedItems items items' →
        (items.take n).map (fun item => sanitizeSampleValue r levels "" item) =
          (items'.take n).map (fun item => sanitizeSampleValue r levels "" item) := by
      intro items items' n concealed
      induction items generalizing items' n with
      | nil =>
        cases concealed
        rfl
      | cons first rest ih' =>
        cases concealed with
        | cons head tail =>
          cases n with
          | zero => rfl
          | succ n => rw [List.take_succ_cons, List.take_succ_cons, List.map_cons, List.map_cons, ih "" head, ih' n tail]
    have fields : ∀ {fields fields' : List (String × Json)} (n : ℕ), ConcealedFields fields fields' →
        (fields.take n).map (fun e => (e.1, sanitizeSampleValue r levels e.1 e.2)) =
          (fields'.take n).map (fun e => (e.1, sanitizeSampleValue r levels e.1 e.2)) := by
      intro fields fields' n concealed
      induction fields generalizing fields' n with
      | nil =>
        cases concealed
        rfl
      | cons first rest ih' =>
        cases concealed with
        | @cons name _ _ _ _ head tail =>
          cases n with
          | zero => rfl
          | succ n => rw [List.take_succ_cons, List.take_succ_cons, List.map_cons, List.map_cons, ih name head, ih' n tail]
        | secret sensitive head tail =>
          cases n with
          | zero => rfl
          | succ n =>
            rw [List.take_succ_cons, List.take_succ_cons, List.map_cons, List.map_cons, ih' n tail]
            dsimp only
            rw [sanitizeSampleValue_sensitive sensitive, sanitizeSampleValue_sensitive sensitive]
    cases concealed with
    | leaf => rfl
    | arr each =>
      unfold sanitizeSampleValue
      dsimp only
      rw [items maxItems each, each.length_eq]
    | obj each =>
      unfold sanitizeSampleValue
      dsimp only
      rw [fields maxItems each, each.length_eq]

theorem sanitized_of_loads {text : String} {document : Json} (loads : r.loads text = some document)
    (opened : (stripped text).toList.head? = some '{' ∨ (stripped text).toList.head? = some '[') :
    sanitized r (.str text) = sanitizeSampleValue r 7 "" document := by
  have plain : ¬sensitiveKey "" = true := by decide +kernel
  unfold sanitized
  rw [sanitizeSampleValue, if_neg plain]
  dsimp only
  rw [if_pos opened, r.strips text document loads]

end
end ApiManger.Evidence
